import PageMarkdown.Markdown.Conversion
import PageMarkdown.Markdown.Shown

/-!
# A converter in use

A converter that answers one call after another counts the elements that it is inside of and keeps
whether it has ever cut one. The count goes up where an element is entered and down where it is
left, also when a string inside of it cannot be shown; items, rows and cells are not counted.
-/

namespace PageMarkdown.Markdown

open Text Html

/-- The state of a converter, within its calls and between them. -/
structure Progress where
  /-- How many elements are being converted, one inside the other. -/
  level : Int
  /-- Some element has been cut. -/
  truncated : Bool
  deriving DecidableEq, Repr

/-- The state of a converter that has not been used. -/
def Progress.fresh : Progress := ⟨0, false⟩

/-- Something that is done with a converter: it leaves a state and a report, however it ends. -/
def Use (α : Type) : Type := Progress → Progress × Report α

namespace Use

instance : Monad Use where
  pure a := fun s => (s, .ok a)
  bind use next := fun s => Report.thenOn (use s) next

/-- One thing after another. -/
def append {α : Type} (first second : Use (List α)) : Use (List α) := do
  let a ← first
  let b ← second
  return a ++ b

instance {α : Type} : Append (Use (List α)) := ⟨append⟩

/-- Leave the converter as it is. -/
def report {α : Type} (r : Report α) : Use α := fun s => (s, r)

/-- Cut an element. Only the first cut is told. -/
def cut (limit : Int) (name : Text) : Use Text := fun s =>
  ({ s with truncated := true },
    if s.truncated then .ok [] else (Report.tell (.truncated limit name)).andThen fun _ => .ok [])

/-- Count one element more while something is done, and no longer, even when it ends in a fault. -/
def inside {α : Type} (use : Use α) : Use α := fun s =>
  let (s, r) := use { s with level := s.level + 1 }
  ({ s with level := s.level - 1 }, r)

/-- Enter an element, or cut it where the limit has been reached. -/
def entering (limit : Int) (name : Text) (use : Use Text) : Use Text := fun s =>
  if limit ≤ s.level then cut limit name s else inside use s

/-- Make a row of its cells; without cells there is none. -/
def row (inHead : Bool) (cells : List Text × Bool) : Use (List TableRow) :=
  pure (if cells.1.isEmpty then [] else [⟨cells.1, cells.2, inHead⟩])

/-- Make a table of its rows; one without content is told. -/
def table (rows : List TableRow) : Use Text :=
  report (if isHollow rows
    then (Report.tell (.tableDropped rows.length)).andThen fun _ => .ok (renderTable rows)
    else .ok (renderTable rows))

end Use

mutual

/-- Convert a node. -/
def useNode (limit : Int) (depth : Nat) : Node → Use Text
  | .text kind content =>
    .report (if kind.isRead then .ofExcept .longNumeral (shownText content) else .ok [])
  | .element name attributes kids =>
    .entering limit name <|
      match shown name attributes kids with
      | .fixed t => pure t
      | .content frame => frame <$> useAll limit depth kids
      | .items ordered => renderList ordered depth <$> useItems limit depth kids
      | .rows =>
        (if name = "table".toList then useRows limit false kids else pure []) >>= Use.table

/-- Convert nodes one after another. -/
def useAll (limit : Int) (depth : Nat) : List Node → Use Text
  | [] => pure []
  | node :: others => useNode limit depth node ++ useAll limit depth others

/-- Convert the items among the children of a list. -/
def useItems (limit : Int) (depth : Nat) : List Node → Use (List Text)
  | [] => pure []
  | .text _ _ :: others => useItems limit depth others
  | .element name _ kids :: others =>
    if lower name = "li".toList then
      ((fun t => if isAllBlank t then [] else [trim t]) <$> useAll limit (depth + 1) kids) ++
        useItems limit depth others
    else useItems limit depth others

/-- Convert the rows of a table below nodes, a row before the rows inside of it. -/
def useRows (limit : Int) (inHead : Bool) : List Node → Use (List TableRow)
  | [] => pure []
  | .text _ _ :: others => useRows limit inHead others
  | .element name _ kids :: others =>
    (if name = "table".toList then pure []
      else
        (if name = "tr".toList then useCells limit kids >>= Use.row inHead else pure []) ++
          useRows limit (inHead || name = "thead".toList) kids) ++
      useRows limit inHead others

/-- Convert the cells among the children of a row, and say whether one is a header cell. -/
def useCells (limit : Int) : List Node → Use (List Text × Bool)
  | [] => pure ([], false)
  | .text _ _ :: others => useCells limit others
  | .element name attributes kids :: others =>
    let isHeader := lower name = "th".toList
    if isHeader || lower name = "td".toList then do
      let t ← useAll limit 0 kids
      let rest ← useCells limit others
      return (cellTexts attributes t ++ rest.1, isHeader || rest.2)
    else useCells limit others

end

/-- A call of a converter. -/
inductive Call where
  /-- Convert a node inside lists of a depth. -/
  | node (depth : Nat) (tree : Node)
  /-- Convert nodes inside lists of a depth. -/
  | content (depth : Nat) (nodes : List Node)
  /-- Convert a whole document. -/
  | document (nodes : List Node)

/-- Answer a call. -/
def Call.use (limit : Int) : Call → Use Text
  | node depth tree => useNode limit depth tree
  | content depth nodes => useAll limit depth nodes
  | document nodes => Converter.settle <$> useAll limit 0 nodes

/-- Answer calls one after another. A fault ends its own call and no other one. -/
def answerAll (limit : Int) : List Call → Progress → Progress × List (Report Text)
  | [], s => (s, [])
  | call :: others, s =>
    let (s, answer) := call.use limit s
    let (s, answers) := answerAll limit others s
    (s, answer :: answers)

end PageMarkdown.Markdown
