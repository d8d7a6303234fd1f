import PageMarkdown.Fault
import PageMarkdown.Files.Path
import PageMarkdown.Text.Lines
import PageMarkdown.Text.Utf8

/-!
# Stores of files

A store holds files and directories by their place, the names that lead to them from the root. A
path is followed name by name: every name but the last must lead to a directory, and a double point
leads back to the directory before. Writing and making directories fail where something else is in
the way; what they change is one place.
-/

namespace PageMarkdown.Files

open Text

/-- The names that lead from the root to a file or directory. -/
abbrev Place := List Text

/-- What a file holds. -/
inductive Content where
  /-- A text. -/
  | text (t : Text)
  /-- Octets of any sort. -/
  | raw (bytes : List UInt8)
  deriving DecidableEq, Repr

/-- The text of a file as it is read: one replacement character for each piece that is no text, and
every line break a line feed. -/
def Content.read : Content → Text
  | text t => unifyBreaks t
  | raw bytes => unifyBreaks (ofOctets bytes)

/-- The octets of a file. -/
def Content.octets : Content → List UInt8
  | text t => Text.octets t
  | raw bytes => bytes

/-- What is at a place. -/
inductive Entry where
  /-- A file. -/
  | file (content : Content)
  /-- A directory. -/
  | directory
  deriving DecidableEq, Repr

/-- Files and directories, and the directory that relative paths start from. -/
structure Store where
  /-- What is at which place; the root is a directory without being listed. -/
  entries : List (Place × Entry)
  /-- Where relative paths start. -/
  workingPlace : Place
  deriving DecidableEq, Repr

namespace Store

/-- What is at a place, if anything. -/
def at? (s : Store) (place : Place) : Option Entry :=
  if place.isEmpty then some .directory else s.entries.lookup place

/-- Put an entry at a place, over what was there. -/
def set (place : Place) (entry : Entry) : List (Place × Entry) → List (Place × Entry)
  | [] => [(place, entry)]
  | (p, e) :: others =>
    if p = place then (place, entry) :: others else (p, e) :: set place entry others

/-- The store with an entry at a place. -/
def put (s : Store) (place : Place) (entry : Entry) : Store :=
  { s with entries := set place entry s.entries }

/-- The most octets that a name may have. -/
def nameLimit : Nat := 255

/-- Follow names from a place. -/
def follow (s : Store) : Place → List Text → Except FileProblem Place
  | place, [] => .ok place
  | place, name :: names =>
    match s.at? place with
    | none => .error .notFound
    | some (.file _) => .error .notDirectory
    | some .directory =>
      if name = ['.', '.'] then follow s place.dropLast names
      else if nameLimit < octetCount name then .error .nameTooLong
      else follow s (place ++ [name]) names

/-- The most octets that the text of a path may have. -/
def pathLimit : Nat := 4095

/-- Follow a path to its place. The place itself may be empty, but it lies in a directory. -/
def locate (s : Store) (path : Path) : Except FileProblem Place :=
  if pathLimit < octetCount path.toText then .error .nameTooLong
  else s.follow (if path.isAbsolute then [] else s.workingPlace) path.names

/-- The absolute path without double points that a path means, whether anything is there or not. -/
def absolute (s : Store) (path : Path) : Path :=
  let start := if path.isAbsolute then [] else s.workingPlace
  ⟨['/'], path.names.foldl (fun place name =>
    if name = ['.', '.'] then place.dropLast else place ++ [name]) start⟩

/-- Some name of the path holds a null character. -/
def hasNull (path : Path) : Bool := path.names.any fun name => name.contains '\x00'

/-- Refuse a path with a null character, and tell a problem together with the path. -/
def guarded {α : Type} (path : Path) (result : Except FileProblem α) : Except Fault α :=
  if hasNull path then .error .nullInPath
  else match result with
    | .ok a => .ok a
    | .error problem => .error (.file problem path.toText)

/-- Read the text of a file. -/
def read (s : Store) (path : Path) : Except Fault Text :=
  guarded path <| (s.locate path).bind fun place =>
    match s.at? place with
    | some (.file content) => .ok content.read
    | some .directory => .error .isDirectory
    | none => .error .notFound

/-- Write a text to a file, over what the file held. -/
def write (s : Store) (path : Path) (t : Text) : Except Fault Store :=
  guarded path <| (s.locate path).bind fun place =>
    match s.at? place with
    | some .directory => .error .isDirectory
    | _ => .ok (s.put place (.file (.text t)))

/-- Save a text in a file. A text with half of a surrogate pair has no octets, and leaves the file
empty. -/
def save (isHalf : Char → Bool) (s : Store) (path : Path) (t : Text) : Store × Except Fault Unit :=
  match t.find? isHalf with
  | none =>
    match s.write path t with
    | .ok written => (written, .ok ())
    | .error e => (s, .error e)
  | some half =>
    match s.write path [] with
    | .ok emptied => (emptied, .error (.unencodable half))
    | .error e => (s, .error e)

/-- Make one directory. -/
def makeOne (s : Store) (path : Path) : Except FileProblem Store :=
  (s.locate path).bind fun place =>
    match s.at? place with
    | some _ => .error .alreadyExists
    | none => .ok (s.put place .directory)

/-- There is a directory at the path. -/
def isDirectory (s : Store) (path : Path) : Bool :=
  match s.locate path with
  | .ok place => s.at? place = some .directory
  | .error _ => false

/-- Make a directory unless it exists; a problem is a fault. -/
def ensureOne (s : Store) (path : Path) : Except Fault Store :=
  match s.makeOne path with
  | .ok made => .ok made
  | .error problem =>
    if s.isDirectory path then .ok s else .error (.file problem path.toText)

/-- Make a directory and those that lead to it, as far as they are missing. The count is the number
of names of the path; the store comes back also when a directory further in could not be made. -/
def ensureFrom (path : Path) : Nat → Store → Store × Except Fault Unit
  | 0, s =>
    match s.ensureOne path with
    | .ok made => (made, .ok ())
    | .error e => (s, .error e)
  | count + 1, s =>
    match s.makeOne path with
    | .ok made => (made, .ok ())
    | .error .notFound =>
      match ensureFrom path.parent count s with
      | (s, .error e) => (s, .error e)
      | (s, .ok ()) =>
        match s.ensureOne path with
        | .ok made => (made, .ok ())
        | .error e => (s, .error e)
    | .error problem =>
      if s.isDirectory path then (s, .ok ()) else (s, .error (.file problem path.toText))

/-- Make a directory and those that lead to it, as far as they are missing. -/
def ensure (s : Store) (path : Path) : Store × Except Fault Unit :=
  if hasNull path then (s, .error .nullInPath)
  else ensureFrom path path.names.length s

end Store

end PageMarkdown.Files
