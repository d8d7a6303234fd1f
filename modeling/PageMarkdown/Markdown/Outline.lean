import PageMarkdown.Markdown.BlankRuns
import PageMarkdown.Text.Blank
import PageMarkdown.Text.DecimalDigit
import PageMarkdown.Text.Lines

/-!
# Lists

A list is written one item after another, each with its marker. What follows the first line of an
item is indented below the marker, except that the items of a nested list, which come with an
indentation of their own, keep a deeper one.
-/

namespace PageMarkdown.Markdown

open Text

/-- What is written in front of an item of a list at a depth: two spaces for each level. -/
def indentation (depth : Nat) : Text := List.replicate (2 * depth) ' '

/-- The line is an item of a list: spaces, a dash or a number with a point, and a space. -/
def isItemLine (line : Text) : Bool :=
  match line.dropWhile (· = ' ') with
  | '-' :: ' ' :: _ => true
  | body =>
    match body.takeWhile DecimalDigit.isDigit, body.dropWhile DecimalDigit.isDigit with
    | _ :: _, '.' :: ' ' :: _ => true
    | _, _ => false

/-- A further line of an item: at least so deep, and as deep as it is when it is an item itself. -/
def continuationLine (least : Nat) (line : Text) : Text :=
  let depth := if isItemLine line then max least (line.takeWhile (· = ' ')).length else least
  List.replicate depth ' ' ++ trim line

/-- The further lines of an item whose marker is indented so far; blank ones are left out. -/
def continuationLines (indent : Nat) (ls : List Text) : List Text :=
  (ls.filter fun line => !isAllBlank line).map (continuationLine (indent + 2))

/-- The marker of an item. -/
def marker (ordered : Bool) (number : Nat) : Text :=
  if ordered then ofNat number ++ ['.'] else ['-']

/-- The lines of one item. -/
def itemLines (ordered : Bool) (depth number : Nat) (item : Text) : List Text :=
  match lines (dropEmptyLines item) with
  | [] => []
  | first :: rest =>
    (indentation depth ++ marker ordered number ++ ' ' :: trim first) ::
      continuationLines (indentation depth).length rest

/-- The lines of items, numbered from a number on. -/
def listLines (ordered : Bool) (depth : Nat) : Nat → List Text → List Text
  | _, [] => []
  | number, item :: items =>
    itemLines ordered depth number item ++ listLines ordered depth (number + 1) items

/-- A list in Markdown; without items there is nothing. -/
def renderList (ordered : Bool) (depth : Nat) (items : List Text) : Text :=
  match listLines ordered depth 1 items with
  | [] => []
  | ls => ['\n', '\n'] ++ unlines ls ++ ['\n', '\n']

end PageMarkdown.Markdown
