import PageMarkdown.Command.Run

/-!
# The program

The outermost layer: it loads what the arguments name into a store, carries out the command on it,
and writes back what has changed. Standard output gets documents, and standard error gets what
happened. There is no transport to the network, so that every request stays unanswered.
-/

namespace PageMarkdown.Program

open Command Files Page

/-- A network that answers nothing. -/
def silentNetwork : Network where
  respond request := .error (.announced ("cannot reach ".toList ++ request.url))
  extract _ := {}

/-- What is at a place of the file system. A place that cannot be read counts as empty. -/
def probe (place : Place) : IO (Option Entry) := do
  try
    let bytes ← IO.FS.readBinFile (String.ofList (Path.toText ⟨['/'], place⟩))
    return some (.file (.raw bytes.data.toList))
  catch
    | .inappropriateType .. => return some .directory
    | _ => return none

/-- The places that following a path leads to, one after another. -/
def stations (start : Place) (path : Path) : List Place :=
  let step (places : List Place) (name : Text) : List Place :=
    let here := places.headD []
    (if name = ['.', '.'] then here.dropLast else here ++ [name]) :: places
  (path.names.foldl step [if path.isAbsolute then [] else start]).reverse

/-- The store with what lies on the way of a path. -/
def load (store : Store) (path : Path) : IO Store := do
  let mut loaded := store
  for place in stations store.workingPlace path do
    if let some entry ← probe place then
      loaded := loaded.put place entry
  return loaded

/-- The paths that a command may read or write. -/
def pathsOf : Arguments → List Path
  | .convert paths output .. =>
    let inputs := (paths.filter fun path => path != standardInput).map Path.ofText
    let outputs := output.toList.flatMap fun directory =>
      paths.map fun path => directory.child (outputName path)
    inputs ++ outputs
  | .fetch _ output .. => [output]

/-- The store that a command works on. -/
def loadAll (paths : List Path) : IO Store := do
  let working := Path.ofText (toString (← IO.currentDir)).toList
  let mut store : Store := ⟨[], working.names⟩
  for path in working :: paths do
    store ← load store path
  return store

/-- Write back the entries that a command has changed, directories before what they hold. -/
def save (before after : Store) : IO Unit :=
  for (place, entry) in after.entries do
    if before.at? place != some entry then
      let name := String.ofList (Path.toText ⟨['/'], place⟩)
      match entry with
      | .directory => IO.FS.createDirAll name
      | .file content => IO.FS.writeBinFile name ⟨content.octets.toArray⟩

/-- Everything that a stream still holds; none when its octets are no text. -/
partial def drain (stream : IO.FS.Stream) (done : Text) : IO (Option Text) := do
  try
    let line ← stream.getLine
    if line.isEmpty then return some done else drain stream (done ++ line.toList)
  catch _ => return none

/-- The input of a command, if it asks for any. -/
def inputOf : Arguments → IO (Option Text)
  | .convert paths .. => do
    if paths.contains standardInput then drain (← IO.getStdin) [] else return some []
  | .fetch .. => return some []

/-- A time in seconds with three places. -/
def secondsText (milliseconds : Nat) : Text :=
  let places := Text.ofNat (milliseconds % 1000)
  Text.ofNat (milliseconds / 1000) ++ '.' :: (List.replicate (3 - places.length) '0' ++ places)

/-- Carry out a command on the file system. The exit status of a faulty run is 1. -/
def perform (arguments : Arguments) : IO UInt32 := do
  let start ← IO.monoMsNow
  let setting ← IO.getEnv "HTML_MDX_MAX_DEPTH"
  let store ← loadAll (pathsOf arguments)
  let input ← inputOf arguments
  let (world, report) :=
    run { depthSetting := setting.map String.toList } silentNetwork arguments ⟨store, input⟩
  let elapsed := secondsText ((← IO.monoMsNow) - start)
  for event in report.events do
    let line := '[' :: event.severity.label ++ "] ".toList ++ event.message elapsed
    IO.eprintln (String.ofList line)
  save store world.store
  match report.outcome with
  | .error fault =>
    IO.eprintln (String.ofList fault.message)
    return 1
  | .ok outcome =>
    IO.print (String.ofList outcome.output)
    return UInt32.ofNat outcome.status

/-- How the program is used. -/
def usage : String :=
  "usage: html-mdx convert [--output DIR] [--title TITLE] [--max-depth N] [--verbose] PATH ...\n" ++
    "       html-mdx fetch [--output DIR] [--timeout SECONDS] [--no-extract] [--max-depth N]\n" ++
    "                      [--stdout] [--verbose] URL ..."

end PageMarkdown.Program

open PageMarkdown Command in
/-- Read the command line and carry it out. -/
def main (arguments : List String) : IO UInt32 :=
  match parse (arguments.map String.toList) with
  | .ok found => Program.perform found
  | .error (.help _) => do
    IO.println Program.usage
    return 0
  | .error (.misuse command what) => do
    IO.eprintln (String.ofList (misuseLine command what))
    return 2
