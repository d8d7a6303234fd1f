import PageMarkdown.Command.Arguments
import PageMarkdown.Page.Fetch

/-!
# Carrying out commands

A conversion reads its inputs one after another and writes each result to a file of its own, or all
of them to standard output at the end; inputs that cannot be read are passed over. A fetch writes a
file for every page. The exit status tells whether everything was done.
-/

namespace PageMarkdown.Command

open Text Files Markdown Page

/-- The name that stands for standard input. -/
def standardInput : Text := ['-']

/-- Convert the markup of one input; a title makes it a full document. -/
def convertSource (env : Environment) (settings : ConvertSettings) (title : Option Text)
    (markup : Text) : Report Text :=
  match title with
  | some title => compose env (some settings) { title := title } markup
  | none => do
    let body ← ofHtml env (some settings) markup
    return if body.isEmpty then [] else body ++ ['\n']

/-- Documents as they go to standard output: each ends its last line, and an empty line stands in
front of each but the first, unless it begins with one. -/
def joinOutputs : List Text → Text
  | [] => []
  | first :: others =>
    let ended (t : Text) : Text := if t.getLast? = some '\n' then t else t ++ ['\n']
    ended first ++ others.flatMap fun t =>
      (if t.head? = some '\n' then [] else ['\n']) ++ ended t

/-- What a command works on. -/
structure World where
  /-- The files. -/
  store : Store
  /-- What standard input holds, none when its octets are no text; it can be read once. -/
  input : Option Text := some []
  deriving DecidableEq, Repr

/-- A conversion of several inputs in the making. -/
structure Progress where
  /-- What is worked on. -/
  world : World
  /-- The documents for standard output, in order. -/
  outputs : List Text := []
  /-- The number of inputs that could not be read. -/
  failures : Nat := 0

/-- Read an input. -/
def readSource (world : World) (path : Text) : World × Except Fault Text :=
  if path = standardInput then
    ({ world with input := some [] },
      match world.input with
      | some markup => .ok markup
      | none => .error .undecodable)
  else (world, world.store.read (Path.ofText path))

/-- Keep a document for standard output. -/
def keepOutput (document : Text) (p : Progress) : Progress :=
  { p with outputs := p.outputs ++ [document] }

/-- The name of the file for an input. -/
def outputName (path : Text) : Text :=
  (if path = standardInput then "stdin".toList else (Path.ofText path).stem) ++ ".md".toList

/-- Save a document in the file for its input. -/
def writeOutput (env : Environment) (directory : Path) (path document : Text) (p : Progress) :
    Progress × Report Unit :=
  let (store, made) := p.world.store.ensure directory
  let p := { p with world := { p.world with store := store } }
  let target := directory.child (outputName path)
  match made with
  | .error e => (p, .fault e)
  | .ok () =>
    let (store, saved) := store.save env.isHalf target document
    let p := { p with world := { p.world with store := store } }
    match saved with
    | .error e => (p, .fault e)
    | .ok () => (p, Report.tell (.saved target.toText))

/-- Where the documents of a conversion go: to a directory or to standard output. -/
def emit (env : Environment) (output : Option Path) (path document : Text) (p : Progress) :
    Progress × Report Unit :=
  match output with
  | none => (keepOutput document p, .ok ())
  | some directory => writeOutput env directory path document p

/-- Convert one input. -/
def convertOne (env : Environment) (settings : ConvertSettings) (title : Option Text)
    (output : Option Path) (path : Text) (p : Progress) : Progress × Report Unit :=
  let (world, source) := readSource p.world path
  let p := { p with world := world }
  match source with
  | .error (.file problem place) =>
    ({ p with failures := p.failures + 1 },
      Report.tell (.readFailed path (Fault.file problem place).message))
  | .error e => (p, .fault e)
  | .ok markup =>
    Report.thenOn (p, convertSource env settings title markup) fun document p =>
      Report.thenOn (p, Report.tell (.converted path markup.length document.length)) fun () p =>
        emit env output path document p

/-- What a command has done. -/
structure Outcome where
  /-- The exit status. -/
  status : Nat
  /-- What was written to standard output. -/
  output : Text
  deriving DecidableEq, Repr

/-- Print a text, as far as standard output has an encoding for it. -/
def print (env : Environment) (status : Nat) (t : Text) : Report Outcome :=
  match t.find? fun c => !env.isPrintable c with
  | none => .ok ⟨status, t⟩
  | some c => .fault (.unencodable c)

/-- The settings of a conversion: a depth on the command line counts more than the one outside. -/
def convertSettings (env : Environment) (maxDepth : Option Int) : Report ConvertSettings := do
  let settings ← ConvertSettings.fromEnvironment env
  match maxDepth with
  | none => return settings
  | some depth => ConvertSettings.make env settings.parser depth

/-- Convert inputs. -/
def runConvert (env : Environment) (paths : List Text) (output : Option Path) (title : Option Text)
    (maxDepth : Option Int) (world : World) : World × Report Outcome :=
  Report.thenOn (world, convertSettings env maxDepth) fun settings world =>
    let (p, done) := Report.each (convertOne env settings title output) paths { world := world }
    (p.world, done.andThen fun () =>
      print env (if p.failures = 0 then 0 else 1) (joinOutputs p.outputs))

/-- The settings of a fetch. -/
def fetchSettings (timeout : Timeout) (noExtract : Bool) (maxDepth : Int) : FetchSettings :=
  { timeout := timeout, extractArticle := !noExtract, maxDepth := maxDepth }

/-- Tell how a fetch went. -/
def tellFetch (verbose : Bool) (total : Nat) (results : List FetchResult) : Report Unit :=
  ⟨.finished results.length total ::
    (if verbose then results.map fun r => .timing r.url else []), .ok ()⟩

/-- Fetch pages. -/
def runFetch (env : Environment) (network : Network) (urls : List Text) (output : Path)
    (settings : FetchSettings) (stdout verbose : Bool) (world : World) : World × Report Outcome :=
  if Store.hasNull output then (world, .fault .nullInPath)
  else
    Report.thenOn (world, settings.clamped env) fun settings world =>
      let (store, fetched) :=
        runFetcher env network settings (world.store.absolute output) urls world.store
      ({ world with store := store }, fetched.andThen fun results =>
        (tellFetch verbose urls.length results).andThen fun () =>
          print env (if results.length = urls.length then 0 else 1)
            (if stdout then joinOutputs (results.map (·.markdown)) else []))

/-- The least severity that a command tells. -/
def Arguments.threshold : Arguments → Severity
  | .convert _ _ _ _ verbose => if verbose then .debug else .warning
  | .fetch _ _ _ _ _ stdout verbose =>
    if verbose then .debug else if stdout then .warning else .info

/-- The report without events that do not matter enough. -/
def audible {α : Type} (threshold : Severity) (r : Report α) : Report α :=
  { r with events := r.events.filter fun e => threshold.rank ≤ e.severity.rank }

/-- Carry out a command. -/
def run (env : Environment) (network : Network) (arguments : Arguments) (world : World) :
    World × Report Outcome :=
  let (world, report) := match arguments with
    | .convert paths output title maxDepth _ => runConvert env paths output title maxDepth world
    | .fetch urls output timeout noExtract maxDepth stdout verbose =>
      runFetch env network urls output (fetchSettings timeout noExtract maxDepth) stdout verbose
        world
  (world, audible arguments.threshold report)

end PageMarkdown.Command
