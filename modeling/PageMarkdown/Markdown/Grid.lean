import PageMarkdown.Markdown.BlankRuns
import PageMarkdown.Numeral.Integer
import PageMarkdown.Text.Lines

/-!
# Grids

A table is written as lines of cells between bars. Rows are padded to the widest one, columns
without any content are left out, one row becomes the header, and a line of dashes follows it. Cells
are flattened onto one line, and bars inside them are escaped.
-/

namespace PageMarkdown.Markdown

open Text

/-- A row of a table, each cell that spans several columns being followed by empty ones. -/
structure TableRow where
  /-- The texts of the cells. -/
  cells : List Text
  /-- Some cell is a header cell. -/
  hasHeaderCell : Bool := false
  /-- The row stands in the head of its table. -/
  fromHead : Bool := false
  deriving DecidableEq, Repr

/-- The most columns that a cell spans. -/
def maxSpan : Nat := 1000

/-- The number of columns that a cell spans: at least one, and one where the attribute is missing or
no integer. -/
def columnSpan (value : Option Text) : Nat :=
  match value.bind fun t => Numeral.integer? (trim t) with
  | none => 1
  | some n => min (max n 1).toNat maxSpan

/-- Replace each run of blanks with a line feed in it by one space; the flag says that the text
begins in a run that is replaced already. -/
def joinLinesFrom : Bool → Text → Text
  | _, [] => []
  | true, c :: t => if isBlank c then joinLinesFrom true t else c :: joinLinesFrom false t
  | false, c :: t =>
    if isBlank c && ((c :: t).takeWhile isBlank).contains '\n' then ' ' :: joinLinesFrom true t
    else c :: joinLinesFrom false t

/-- The content of a cell on one line. -/
def normalizeCell (t : Text) : Text :=
  trim (squeeze (joinLinesFrom false (trim (dropEmptyLines (unifyBreaks t)))))

/-- A cell as it stands between bars. -/
def escapeCell (t : Text) : Text := replace '|' ['\\', '|'] (flatten t)

/-- Cells between bars. -/
def barLine (cells : List Text) : Text :=
  '|' :: ' ' :: [' ', '|', ' '].intercalate cells ++ [' ', '|']

/-- A row between bars. -/
def renderRow (cells : List Text) : Text := barLine (cells.map escapeCell)

/-- The place of the header row: the first row from the head of the table, or else the first with a
header cell, or else the first of all. -/
def headerIndex (rows : List TableRow) : Nat :=
  match rows.findIdx? (·.fromHead) with
  | some i => i
  | none => (rows.findIdx? (·.hasHeaderCell)).getD 0

/-- A row padded with empty cells. -/
def padTo (width : Nat) (cells : List Text) : List Text :=
  cells ++ List.replicate (width - cells.length) []

/-- The number of cells of the widest row. -/
def gridWidth (rows : List TableRow) : Nat := (rows.map (·.cells.length)).foldl max 0

/-- The columns in which some row has content. -/
def keptColumns (width : Nat) (grid : List (List Text)) : List Nat :=
  (List.range width).filter fun i => grid.any fun cells => !(cells.getD i []).isEmpty

/-- The cells of a row in the given columns. -/
def pick (columns : List Nat) (cells : List Text) : List Text :=
  columns.map fun i => cells.getD i []

/-- The cells that are written, row by row, without empty columns. -/
def gridOf (rows : List TableRow) : List (List Text) :=
  let width := gridWidth rows
  let grid := rows.map fun r => padTo width r.cells
  grid.map (pick (keptColumns width grid))

/-- The lines of a grid whose header row has the given place. -/
def gridLines (header : Nat) (grid : List (List Text)) : List Text :=
  let first := grid.getD header []
  renderRow first :: barLine (first.map fun _ => ['-', '-', '-']) ::
    (grid.eraseIdx header).map renderRow

/-- A table in Markdown: nothing when it has no rows or no content. -/
def renderTable (rows : List TableRow) : Text :=
  let grid := gridOf rows
  match grid.head? with
  | none | some [] => []
  | _ => ['\n', '\n'] ++ unlines (gridLines (headerIndex rows) grid) ++ ['\n', '\n']

/-- The table has cells, but none with content. -/
def isHollow (rows : List TableRow) : Bool :=
  gridWidth rows != 0 && (gridOf rows).all List.isEmpty

end PageMarkdown.Markdown
