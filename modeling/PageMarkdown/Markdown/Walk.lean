import PageMarkdown.Html.Reference
import PageMarkdown.Markdown.Grid
import PageMarkdown.Markdown.Image
import PageMarkdown.Markdown.Outline
import PageMarkdown.Text.Lowercase

/-!
# Walking the tree

The walk turns nodes into Markdown from the leaves up. It carries the nesting depth that is still
allowed, its room, and the depth of the lists around a node. Every element that is entered takes one
unit of room, list items and the rows and cells of tables taking none, and an element without room
is cut. Beside the Markdown the walk leaves marks, in the order in which it met their causes.
-/

namespace PageMarkdown.Markdown

open Text Html

/-- What an element does to its content. -/
inductive Role where
  /-- A heading of a level. -/
  | heading (level : Nat)
  /-- A paragraph. -/
  | paragraph
  /-- A line break. -/
  | lineBreak
  /-- Strong emphasis. -/
  | strong
  /-- Emphasis. -/
  | emphasis
  /-- Code within a line. -/
  | code
  /-- A block of preformatted text. -/
  | preformatted
  /-- A link. -/
  | link
  /-- An image. -/
  | image
  /-- A list, numbered or not. -/
  | list (ordered : Bool)
  /-- A quotation. -/
  | quote
  /-- A thematic break. -/
  | rule
  /-- A table. -/
  | table
  /-- Content that is not shown. -/
  | hidden
  /-- No role: the content stands for the element. -/
  | transparent
  deriving DecidableEq, Repr

/-- The elements that have a role, by name in lower case. -/
def Role.known : List (String × Role) :=
  [("p", paragraph), ("br", lineBreak), ("strong", strong), ("b", strong), ("em", emphasis),
    ("i", emphasis), ("code", code), ("pre", preformatted), ("a", link), ("img", image),
    ("ul", list false), ("ol", list true), ("blockquote", quote), ("hr", rule), ("table", table),
    ("h1", heading 1), ("h2", heading 2), ("h3", heading 3), ("h4", heading 4), ("h5", heading 5),
    ("h6", heading 6), ("script", hidden), ("style", hidden)]

/-- The role of an element, whatever the case of its name. -/
def Role.ofName (name : Text) : Role :=
  match Role.known.find? fun entry => entry.1.toList = lower name with
  | some entry => entry.2
  | none => transparent

/-- Something that the walk met. -/
inductive Mark where
  /-- An element was cut because there was no room for it. -/
  | cut (element : Text)
  /-- A table with this many rows had no content. -/
  | hollowTable (rows : Nat)
  /-- A string held a decimal reference with too many digits. -/
  | longNumeral (n : Numeral.TooLong)
  deriving DecidableEq, Repr

/-- A result of the walk with the marks that were left on the way. -/
structure Marked (α : Type) where
  /-- The result. -/
  value : α
  /-- The marks, in order. -/
  marks : List Mark
  deriving Repr

namespace Marked

/-- A result without marks. -/
def clear {α : Type} (a : α) : Marked α := ⟨a, []⟩

/-- Change the result and keep the marks. -/
def map {α β : Type} (f : α → β) (m : Marked α) : Marked β := ⟨f m.value, m.marks⟩

/-- One result after another. -/
def append {α : Type} (a b : Marked (List α)) : Marked (List α) :=
  ⟨a.value ++ b.value, a.marks ++ b.marks⟩

instance {α : Type} : Append (Marked (List α)) := ⟨append⟩

end Marked

/-- A block: nothing, or the content between empty lines. -/
def block (content : Text) : Text :=
  if content.isEmpty then [] else ['\n', '\n'] ++ content ++ ['\n', '\n']

/-- Nothing, or the content between two marks. -/
def enclosed (mark content : Text) : Text :=
  if content.isEmpty then [] else mark ++ content ++ mark

/-- A heading. -/
def headingMarkdown (level : Nat) (content : Text) : Text :=
  if content.isEmpty then [] else block (List.replicate level '#' ++ ' ' :: content)

/-- Code within a line, its backquotes escaped. -/
def codeMarkdown (content : Text) : Text :=
  enclosed ['\x60'] (replace '\x60' ['\\', '\x60'] (trim content))

/-- Preformatted text between fences. -/
def preformattedMarkdown (content : Text) : Text :=
  let fence := ['\x60', '\x60', '\x60']
  let body := trimRight content
  if body.isEmpty then [] else block (fence ++ '\n' :: body ++ '\n' :: fence)

/-- A quotation: every line that is not blank behind a mark. -/
def quoteMarkdown (content : Text) : Text :=
  block (unlines (((lines content).filter fun line => !isAllBlank line).map fun line =>
    '>' :: ' ' :: trim line))

/-- A link, or its text alone where its target is not safe. A link without text shows its target. -/
def linkMarkdown (target content : Text) : Text :=
  let shown := firstFilled content target
  let url := Url.sanitize target
  if url.isEmpty then shown else '[' :: shown ++ ']' :: '(' :: url ++ [')']

/-- The Markdown of an image element. -/
def imageElement (attributes : Attributes) : Text :=
  let source := trim (attributes.text "src")
  if source.isEmpty then []
  else imageMarkdown source (trim (attributes.text "alt")) (trim (attributes.text "title"))

/-- A string as it is shown: its references are resolved, and runs of blanks shrink to one space. -/
def shownText (t : Text) : Except Numeral.TooLong Text := (Reference.resolveAll t).map squeeze

/-- The Markdown of a string; one that cannot be shown is marked. -/
def stringMarkdown (t : Text) : Marked Text :=
  match shownText t with
  | .ok shown => .clear shown
  | .error n => ⟨[], [.longNumeral n]⟩

/-- A table made of its rows; one without content is marked. -/
def tableMarkdown (rows : Marked (List TableRow)) : Marked Text :=
  ⟨renderTable rows.value,
    rows.marks ++ if isHollow rows.value then [.hollowTable rows.value.length] else []⟩

/-- The cells that a cell element gives: its text, and an empty one for each further column. -/
def cellTexts (attributes : Attributes) (content : Text) : List Text :=
  normalizeCell (trim content) ::
    List.replicate
      (columnSpan ((attributes.lookup "colspan".toList).map AttributeValue.toText) - 1) []

/-- The row that cells make; without cells there is none. -/
def rowOf (inHead : Bool) (cells : Marked (List Text × Bool)) : Marked (List TableRow) :=
  cells.map fun found =>
    if found.1.isEmpty then [] else [⟨found.1, found.2, inHead⟩]

mutual

/-- The Markdown of a node. -/
def walk (room depth : Nat) : Node → Marked Text
  | .text kind content => if kind.isRead then stringMarkdown content else .clear []
  | .element name attributes kids =>
    match room with
    | 0 => ⟨[], [.cut name]⟩
    | room + 1 =>
      match Role.ofName name with
      | .heading level => (walkAll room depth kids).map fun t => headingMarkdown level (trim t)
      | .paragraph => (walkAll room depth kids).map fun t => block (trim t)
      | .lineBreak => .clear [' ', ' ', '\n']
      | .strong => (walkAll room depth kids).map fun t => enclosed ['*', '*'] (trim t)
      | .emphasis => (walkAll room depth kids).map fun t => enclosed ['*'] (trim t)
      | .code => .clear (codeMarkdown (Node.innerText kids))
      | .preformatted => .clear (preformattedMarkdown (Node.innerText kids))
      | .link =>
        (walkAll room depth kids).map fun t => linkMarkdown (trim (attributes.text "href")) (trim t)
      | .image => .clear (imageElement attributes)
      | .list ordered => (walkItems room depth kids).map (renderList ordered depth)
      | .quote => (walkAll room depth kids).map fun t => quoteMarkdown (trim t)
      | .rule => .clear (block ['-', '-', '-'])
      | .table =>
        tableMarkdown (if name = "table".toList then walkRows room false kids else .clear [])
      | .hidden => .clear []
      | .transparent => walkAll room depth kids

/-- The Markdown of nodes, one after another. -/
def walkAll (room depth : Nat) : List Node → Marked Text
  | [] => .clear []
  | node :: others => walk room depth node ++ walkAll room depth others

/-- The contents of the items among the children of a list, blank ones left out. -/
def walkItems (room depth : Nat) : List Node → Marked (List Text)
  | [] => .clear []
  | .text _ _ :: others => walkItems room depth others
  | .element name _ kids :: others =>
    if lower name = "li".toList then
      ((walkAll room (depth + 1) kids).map fun t => if isAllBlank t then [] else [trim t]) ++
        walkItems room depth others
    else walkItems room depth others

/-- The rows of a table below nodes, in document order; what lies in a table of its own is left
out. -/
def walkRows (room : Nat) (inHead : Bool) : List Node → Marked (List TableRow)
  | [] => .clear []
  | .text _ _ :: others => walkRows room inHead others
  | .element name _ kids :: others =>
    (if name = "table".toList then .clear []
      else
        (if name = "tr".toList then rowOf inHead (walkCells room kids) else .clear []) ++
          walkRows room (inHead || name = "thead".toList) kids) ++
      walkRows room inHead others

/-- The cells among the children of a row, and whether one of them is a header cell. -/
def walkCells (room : Nat) : List Node → Marked (List Text × Bool)
  | [] => .clear ([], false)
  | .text _ _ :: others => walkCells room others
  | .element name attributes kids :: others =>
    let isHeader := lower name = "th".toList
    if isHeader || lower name = "td".toList then
      let content := walkAll room 0 kids
      let rest := walkCells room others
      ⟨(cellTexts attributes content.value ++ rest.value.1, isHeader || rest.value.2),
        content.marks ++ rest.marks⟩
    else walkCells room others

end

end PageMarkdown.Markdown
