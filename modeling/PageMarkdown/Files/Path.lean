import PageMarkdown.Text

/-!
# Paths

A path is a row of names behind an optional root. Empty names and single points are dropped when a
path is read, double points stay. The text of a path joins the names by slashes; the path without
names is written as a point.
-/

namespace PageMarkdown.Files

open Text

/-- A path, relative or absolute. -/
structure Path where
  /-- The slashes that an absolute path begins with; two are not the same as one. -/
  root : Text
  /-- The names, outermost first. -/
  names : List Text
  deriving DecidableEq, Repr

namespace Path

/-- Read a path. -/
def ofText (t : Text) : Path :=
  let slashes := (t.takeWhile (· = '/')).length
  let root := if slashes = 0 then [] else if slashes = 2 then ['/', '/'] else ['/']
  ⟨root, (fields '/' t).filter fun name => !name.isEmpty && name != ['.']⟩

/-- The text of a path. -/
def toText (p : Path) : Text :=
  if p.root.isEmpty && p.names.isEmpty then ['.'] else p.root ++ ['/'].intercalate p.names

/-- The path of a name below a path. -/
def child (p : Path) (name : Text) : Path := { p with names := p.names ++ [name] }

/-- The path without its last name. -/
def parent (p : Path) : Path := { p with names := p.names.dropLast }

/-- The last name without what follows its last point; a point at either end of the name does not
count. -/
def stem (p : Path) : Text :=
  let name := p.names.getLastD []
  match cutLast '.' name with
  | (some (c :: front), _ :: _) => c :: front
  | _ => name

/-- The path begins at the root. -/
def isAbsolute (p : Path) : Bool := !p.root.isEmpty

end Path

end PageMarkdown.Files
