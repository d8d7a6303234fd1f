import Mathlib.Data.List.GetD
import Mathlib.Data.List.InsertIdx
import PageMarkdown.Proofs.Element
import PageMarkdown.Proofs.Html.Node
import PageMarkdown.Proofs.Marks
import PageMarkdown.Proofs.Text.Lines
import PageMarkdown.Proofs.Text.Replace

/-!
# Reading a rendered table back

A row is read back by cutting its line at every bar without a backslash right in
front of it, trimming the pieces and undoing the escapes. This inverts rendering
for flat cells, and the cells that a table element gives are flat. Hence a table
reads back to its rows, restricted to the columns that have content somewhere,
with the header row in front.
-/

namespace PageMarkdown.Markdown

open Text Html

/-! ## Bars -/

/-- The pieces of a line between its bars. A bar right behind a backslash belongs to its piece; the
flag says that a backslash stands in front of the text. -/
def barPieces : Bool → Text → List Text
  | _, [] => [[]]
  | escaped, c :: t =>
    if c = '|' && !escaped then [] :: barPieces false t
    else (c :: (barPieces (c = '\\') t).headD []) :: (barPieces (c = '\\') t).tail

/-- The text with escaped bars turned back into bars. -/
def unescapeBars : Text → Text
  | [] => []
  | '\\' :: '|' :: t => '|' :: unescapeBars t
  | c :: t => c :: unescapeBars t

/-- The cells of a line that has nothing in front of its first bar and behind its last one. -/
def readRow (line : Text) : Option (List Text) :=
  match barPieces false line with
  | [] :: pieces =>
    if pieces.getLast? = some [] then some (pieces.dropLast.map fun t => unescapeBars (trim t))
    else none
  | _ => none

/-- A bar is written with a backslash in front of it. -/
abbrev escapeBars (t : Text) : Text := replace '|' ['\\', '|'] t

@[simp] theorem escapeBars_nil : escapeBars [] = [] := rfl

theorem escapeBars_bar (t : Text) : escapeBars ('|' :: t) = '\\' :: '|' :: escapeBars t := rfl

theorem escapeBars_cons {c : Char} (h : c ≠ '|') (t : Text) :
    escapeBars (c :: t) = c :: escapeBars t :=
  replace_cons_of_ne h ..

/-- An escaped text does not begin with a bar. -/
theorem head?_escapeBars_ne (t : Text) : (escapeBars t).head? ≠ some '|' := by
  cases t with
  | nil => simp
  | cons c t =>
    by_cases h : c = '|'
    · subst h
      simp [escapeBars_bar]
    · simpa [escapeBars_cons h] using h

/-- Other characters than an escaped bar stand for themselves. -/
theorem unescapeBars_cons {c : Char} {t : Text} (h : t.head? ≠ some '|') :
    unescapeBars (c :: t) = c :: unescapeBars t := by
  rw [unescapeBars]
  rintro u rfl rfl
  exact h rfl

/-- Undoing the escapes gives the text back. -/
theorem unescapeBars_escapeBars (t : Text) : unescapeBars (escapeBars t) = t := by
  induction t with
  | nil => rfl
  | cons c t ih =>
    by_cases h : c = '|'
    · subst h
      rw [escapeBars_bar, unescapeBars, ih]
    · rw [escapeBars_cons h, unescapeBars_cons (head?_escapeBars_ne t), ih]

/-- A cell as it stands between two bars. -/
def padded (t : Text) : Text := ' ' :: (t ++ [' '])

/-- An escaped text stays in one piece, up to the bar behind the space that follows it. -/
theorem barPieces_escapeBars (escaped : Bool) (t rest : Text) :
    barPieces escaped (escapeBars t ++ ' ' :: '|' :: rest) =
      (escapeBars t ++ [' ']) :: barPieces false rest := by
  induction t generalizing escaped with
  | nil => simp [barPieces]
  | cons c t ih =>
    by_cases h : c = '|'
    · subst h
      rw [escapeBars_bar]
      simp [barPieces, ih]
    · rw [escapeBars_cons h]
      simp [barPieces, h, ih]

/-- The cell in front of a bar is the first piece. -/
theorem barPieces_padded (t rest : Text) :
    barPieces false (padded (escapeBars t) ++ '|' :: rest) =
      padded (escapeBars t) :: barPieces false rest := by
  have hcell := barPieces_escapeBars false t rest
  simp [padded, barPieces, hcell]

/-- A bar follows every cell of a line, and one more is in front of them all. -/
theorem barLine_eq {cells : List Text} (h : cells ≠ []) :
    barLine cells = '|' :: cells.flatMap fun t => padded t ++ ['|'] := by
  have hrow (cell : Text) (others : List Text) :
      ' ' :: [' ', '|', ' '].intercalate (cell :: others) ++ [' ', '|'] =
        (cell :: others).flatMap fun t => padded t ++ ['|'] := by
    induction others generalizing cell with
    | nil => simp [padded]
    | cons next others ih =>
      rw [List.flatMap_cons, ← ih next, List.intercalate_cons_cons]
      simp [padded]
  cases cells with
  | nil => exact absurd rfl h
  | cons cell others => rw [barLine, ← hrow cell others]; rfl

/-- The pieces of a rendered row: the cells between spaces, and an empty piece at either end. -/
theorem barPieces_barLine {cells : List Text} (h : cells ≠ []) :
    barPieces false (barLine (cells.map escapeBars)) =
      [] :: (cells.map fun t => padded (escapeBars t)) ++ [[]] := by
  have hcells : barPieces false ((cells.map escapeBars).flatMap fun t => padded t ++ ['|']) =
      (cells.map fun t => padded (escapeBars t)) ++ [[]] := by
    clear h
    induction cells with
    | nil => rfl
    | cons t cells ih =>
      rw [List.map_cons, List.flatMap_cons, List.append_assoc, List.singleton_append,
        barPieces_padded, ih]
      rfl
  rw [barLine_eq (by simpa using h), barPieces, hcells]
  rfl

/-- Escaping leaves the ends of a text without blanks. -/
theorem isTrimmed_escapeBars {t : Text} (h : IsTrimmed t) : IsTrimmed (escapeBars t) := by
  constructor
  · intro c hc
    cases t with
    | nil => simp at hc
    | cons d t =>
      by_cases hd : d = '|'
      · subst hd
        obtain rfl : '\\' = c := by simpa [escapeBars_bar] using hc
        decide
      · obtain rfl : d = c := by simpa [escapeBars_cons hd] using hc
        exact h.head d rfl
  · intro c hc
    rcases t.eq_nil_or_concat with rfl | ⟨front, d, rfl⟩
    · simp at hc
    · have hlast : (escapeBars (front ++ [d])).getLast? = some d := by
        by_cases hd : d = '|' <;> simp [escapeBars, replace, hd]
      rw [List.concat_eq_append, hlast] at hc
      obtain rfl : d = c := Option.some.inj hc
      exact h.last d (by simp)

/-- Flat cells are read back from their rendered row. -/
theorem readRow_renderRow {cells : List Text} (hne : cells ≠ []) (h : ∀ t ∈ cells, IsFlat t) :
    readRow (renderRow cells) = some cells := by
  have hescape : cells.map escapeCell = cells.map escapeBars := by
    refine List.map_congr_left fun t ht => ?_
    rw [escapeCell, (h t ht).flatten_eq]
  have hcell : ∀ t ∈ cells, unescapeBars (trim (padded (escapeBars t))) = t := by
    intro t ht
    have hspace : ∀ c ∈ [' '], isBlank c = true := List.forall_mem_singleton.mpr rfl
    have htrim : trim (padded (escapeBars t)) = escapeBars t :=
      (isTrimmed_escapeBars (h t ht).trimmed).trim_append hspace hspace
    rw [htrim, unescapeBars_escapeBars]
  have hread : ((cells.map fun t => padded (escapeBars t)).map fun t => unescapeBars (trim t)) =
      cells := by
    rw [List.map_map]
    exact (List.map_congr_left hcell).trans (List.map_id cells)
  rw [renderRow, hescape, readRow, barPieces_barLine hne]
  simp only [List.cons_append, List.getLast?_concat, List.dropLast_concat, if_true, hread]

/-! ## Columns and the header row -/

/-- The columns, in order, in which some row has content. Cells that a row lacks are empty. -/
structure ContentColumns (rows : List TableRow) (columns : List Nat) : Prop where
  /-- The columns are in order, each once. -/
  increasing : columns.Pairwise (· < ·)
  /-- They are the columns with content. -/
  mem_iff : ∀ i, i ∈ columns ↔ ∃ r ∈ rows, r.cells.getD i [] ≠ []

/-- The row of a place is the first one with a property. -/
def IsFirstRow (p : TableRow → Bool) (rows : List TableRow) (i : Nat) : Prop :=
  (∃ r, rows[i]? = some r ∧ p r = true) ∧ ∀ j < i, ∀ r, rows[j]? = some r → p r = false

/-- The place of the header: the first row from the head of the table, or else the first one with a
header cell, or else the very first. -/
inductive HeaderPlace (rows : List TableRow) : Nat → Prop where
  /-- Some row comes from the head. -/
  | fromHead {i : Nat} : IsFirstRow (·.fromHead) rows i → HeaderPlace rows i
  /-- No row does, but some row has a header cell. -/
  | headerCell {i : Nat} : (∀ r ∈ rows, r.fromHead = false) →
      IsFirstRow (·.hasHeaderCell) rows i → HeaderPlace rows i
  /-- There is neither. -/
  | top : (∀ r ∈ rows, r.fromHead = false) → (∀ r ∈ rows, r.hasHeaderCell = false) →
      HeaderPlace rows 0

/-- A search finds the first row with a property. -/
theorem isFirstRow_of_findIdx? {p : TableRow → Bool} {rows : List TableRow} {i : Nat}
    (h : rows.findIdx? p = some i) : IsFirstRow p rows i := by
  obtain ⟨hi, hp, hbefore⟩ := List.findIdx?_eq_some_iff_getElem.mp h
  refine ⟨⟨rows[i], List.getElem?_eq_getElem hi, hp⟩, ?_⟩
  intro j hj r hr
  obtain ⟨hlt, rfl⟩ := List.getElem?_eq_some_iff.mp hr
  simpa using hbefore j hj

/-- The header row is where it has to be. -/
theorem headerPlace_headerIndex (rows : List TableRow) : HeaderPlace rows (headerIndex rows) := by
  unfold headerIndex
  cases hhead : rows.findIdx? (·.fromHead) with
  | some i => exact .fromHead (isFirstRow_of_findIdx? hhead)
  | none =>
    have hnone : ∀ r ∈ rows, r.fromHead = false := by
      simpa using List.findIdx?_eq_none_iff.mp hhead
    cases hcell : rows.findIdx? (·.hasHeaderCell) with
    | some i => exact .headerCell hnone (isFirstRow_of_findIdx? hcell)
    | none => exact .top hnone (by simpa using List.findIdx?_eq_none_iff.mp hcell)

/-- The place of the header is one of the rows, when there are any. -/
theorem HeaderPlace.lt_length {rows : List TableRow} {i : Nat} (h : HeaderPlace rows i)
    (hne : rows ≠ []) : i < rows.length := by
  cases h with
  | fromHead hfirst | headerCell _ hfirst =>
    obtain ⟨⟨r, hr, -⟩, -⟩ := hfirst
    exact (List.getElem?_eq_some_iff.mp hr).1
  | top => exact List.length_pos_iff.mpr hne

/-- Padding adds empty cells only. -/
theorem getD_padTo (width : Nat) (cells : List Text) (i : Nat) :
    (padTo width cells).getD i [] = cells.getD i [] := by
  rw [padTo]
  by_cases h : i < cells.length
  · exact List.getD_append cells _ [] i h
  · rw [List.getD_append_right cells _ [] i (by omega), List.getD_eq_default cells [] (by omega)]
    simp only [List.getD_eq_getElem?_getD, List.getElem?_replicate]
    split <;> rfl

/-- No row is wider than the grid. -/
theorem length_le_gridWidth {rows : List TableRow} {r : TableRow} (h : r ∈ rows) :
    r.cells.length ≤ gridWidth rows := by
  have hfold : ∀ (ns : List Nat) (m : Nat), m ≤ ns.foldl max m ∧ ∀ n ∈ ns, n ≤ ns.foldl max m := by
    intro ns
    induction ns with
    | nil => exact fun m => ⟨le_refl m, by simp⟩
    | cons k ns ih =>
      intro m
      obtain ⟨hstart, hrest⟩ := ih (max m k)
      refine ⟨(le_max_left m k).trans hstart, ?_⟩
      intro n hn
      rcases List.mem_cons.mp hn with rfl | hn
      · exact (le_max_right m n).trans hstart
      · exact hrest n hn
  exact (hfold _ 0).2 _ (List.mem_map_of_mem h)

/-- The columns that a table of the given rows keeps. -/
def columnsOf (rows : List TableRow) : List Nat :=
  keptColumns (gridWidth rows) (rows.map fun r => padTo (gridWidth rows) r.cells)

/-- The kept columns are those with content. -/
theorem contentColumns_columnsOf (rows : List TableRow) : ContentColumns rows (columnsOf rows) := by
  constructor
  · exact List.pairwise_lt_range.sublist List.filter_sublist
  · intro i
    simp only [columnsOf, keptColumns, List.mem_filter, List.mem_range, List.any_map,
      List.any_eq_true, Function.comp_apply, getD_padTo, Bool.not_eq_true',
      List.isEmpty_eq_false_iff]
    constructor
    · exact fun h => h.2
    · rintro ⟨r, hr, hcell⟩
      refine ⟨?_, r, hr, hcell⟩
      by_contra hi
      have hwide := length_le_gridWidth hr
      exact hcell (List.getD_eq_default r.cells [] (by omega))

/-- The written grid holds the cells of the kept columns. -/
theorem gridOf_eq (rows : List TableRow) :
    gridOf rows = rows.map fun r => pick (columnsOf rows) r.cells := by
  simp only [gridOf, List.map_map]
  refine List.map_congr_left fun r _ => ?_
  simp only [Function.comp_apply, pick, getD_padTo]
  rfl

/-- Columns in which a row has nothing may be left out. -/
theorem flatten_pick_filter {cells : List Text} (is : List Nat) {p : Nat → Bool}
    (h : ∀ i ∈ is, p i = false → cells.getD i [] = []) :
    (pick (is.filter p) cells).flatten = (pick is cells).flatten := by
  induction is with
  | nil => rfl
  | cons i is ih =>
    obtain ⟨hi, his⟩ := List.forall_mem_cons.mp h
    rw [List.filter_cons]
    cases hpi : p i with
    | true => simpa [pick] using ih his
    | false =>
      have hempty := hi hpi
      rw [if_neg Bool.false_ne_true, ih his]
      simp only [pick, List.map_cons, List.flatten_cons, hempty, List.nil_append]

/-- A row in all columns of the grid is the padded row. -/
theorem pick_range {rows : List TableRow} {r : TableRow} (h : r ∈ rows) :
    pick (List.range (gridWidth rows)) r.cells = padTo (gridWidth rows) r.cells := by
  have hwide := length_le_gridWidth h
  apply List.ext_getElem
  · simp [pick, padTo]
    omega
  · intro i hi _
    simp only [pick, List.getElem_map, List.getElem_range]
    rw [← getD_padTo (gridWidth rows), List.getD_eq_getElem]

/-- The cells of a row come in one order, whether or not empty ones are left out. -/
theorem flatten_pick_columnsOf {rows : List TableRow} {r : TableRow} (h : r ∈ rows) :
    (pick (columnsOf rows) r.cells).flatten = r.cells.flatten := by
  rw [columnsOf, keptColumns, flatten_pick_filter, pick_range h, padTo, List.flatten_append,
    List.flatten_replicate_nil, List.append_nil]
  intro i _ hi
  simp only [List.any_map, List.any_eq_false, Function.comp_apply, getD_padTo] at hi
  simpa using hi r h

/-- Without rows or without columns a table is nothing. -/
theorem renderTable_eq_nil {rows : List TableRow} (h : rows = [] ∨ columnsOf rows = []) :
    renderTable rows = [] := by
  rw [renderTable, gridOf_eq]
  cases rows with
  | nil => rfl
  | cons r rows =>
    have hcolumns : columnsOf (r :: rows) = [] := h.resolve_left (List.cons_ne_nil r rows)
    simp [hcolumns, pick]

/-- The lines of a table: the header row, the rule, and the other rows. -/
def tableLines (columns : List Nat) (header : TableRow) (others : List TableRow) : List Text :=
  renderRow (pick columns header.cells) ::
    barLine (List.replicate columns.length ['-', '-', '-']) ::
      others.map fun r => renderRow (pick columns r.cells)

/-- With rows and columns a table is made of its lines between empty ones. -/
theorem renderTable_eq {rows : List TableRow} (hrows : rows ≠ []) (hcolumns : columnsOf rows ≠ []) :
    ∃ header, rows[headerIndex rows]? = some header ∧
      renderTable rows = ['\n', '\n'] ++
        unlines (tableLines (columnsOf rows) header (rows.eraseIdx (headerIndex rows))) ++
          ['\n', '\n'] := by
  have hlt := (headerPlace_headerIndex rows).lt_length hrows
  refine ⟨rows[headerIndex rows], List.getElem?_eq_getElem hlt, ?_⟩
  have hlines : gridLines (headerIndex rows) (gridOf rows) =
      tableLines (columnsOf rows) rows[headerIndex rows] (rows.eraseIdx (headerIndex rows)) := by
    rw [gridOf_eq, gridLines, tableLines, List.eraseIdx_map, List.map_map,
      List.getD_eq_getElem _ _ (by simpa using hlt), List.getElem_map]
    simp only [pick, List.map_map]
    rw [← List.map_const']
    rfl
  have hhead : (gridOf rows).head? ≠ some [] := by
    rw [gridOf_eq]
    cases rows with
    | nil => exact absurd rfl hrows
    | cons r rows => simpa [pick] using hcolumns
  have hnone : (gridOf rows).head? ≠ none := by
    rw [gridOf_eq]
    simpa using hrows
  rw [renderTable, ← hlines]
  split
  · exact absurd ‹_› hnone
  · exact absurd ‹_› hhead
  · rfl

/-! ## Tables -/

/-- A cell is flat. -/
theorem isFlat_normalizeCell (t : Text) : IsFlat (normalizeCell t) := isFlat_trim_squeeze _

/-- The cells that a cell element gives are flat. -/
theorem isFlat_cellTexts (attributes : Attributes) (content : Text) :
    ∀ t ∈ cellTexts attributes content, IsFlat t := by
  intro t ht
  rcases List.mem_cons.mp ht with rfl | ht
  · exact isFlat_normalizeCell _
  · rw [List.eq_of_mem_replicate ht]
    exact isFlat_nil

/-- All cells of a row element are flat. -/
theorem isFlat_walkCells (room : Nat) (nodes : List Node) :
    ∀ t ∈ (walkCells room nodes).value.1, IsFlat t := by
  induction nodes with
  | nil => simp [walkCells, Marked.clear]
  | cons node others ih =>
    cases node with
    | text kind content => simpa [walkCells] using ih
    | element name attributes kids =>
      rw [walkCells]
      split
      · intro t ht
        rcases List.mem_append.mp ht with ht | ht
        · exact isFlat_cellTexts _ _ t ht
        · exact ih t ht
      · exact ih

/-- All cells of a table are flat. -/
theorem isFlat_walkRows (room : Nat) (inHead : Bool) (nodes : List Node) :
    ∀ r ∈ (walkRows room inHead nodes).value, ∀ t ∈ r.cells, IsFlat t := by
  induction nodes using Node.forest_induction generalizing inHead with
  | nil => simp [walkRows, Marked.clear]
  | text kind content others ih => simpa [walkRows] using ih inHead
  | element name attributes kids others ihKids ih =>
    have hrow : ∀ r ∈ (rowOf inHead (walkCells room kids)).value, ∀ t ∈ r.cells, IsFlat t := by
      intro r hr
      rw [rowOf, Marked.map] at hr
      split at hr
      · cases hr
      · obtain rfl := List.mem_singleton.mp hr
        exact isFlat_walkCells room kids
    rw [walkRows]
    intro r hr
    rcases List.mem_append.mp hr with hr | hr
    · split at hr
      · cases hr
      · rcases List.mem_append.mp hr with hr | hr
        · split at hr
          · exact hrow r hr
          · cases hr
        · exact ihKids _ r hr
    · exact ih inHead r hr

/-- The rows that a converter takes from a table element: those that belong to it, with their cells
converted one level further in. Rows belong to an element of exactly this name. -/
def Converter.extractRows (c : Converter) (name : Text) (kids : List Node) :
    Report (List TableRow × Converter) :=
  if name = "table".toList then Converter.tableRows { c with limit := c.limit - 1 } kids
  else .ok ([], c)

@[simp] theorem Converter.extractRows_table (c : Converter) (kids : List Node) :
    c.extractRows "table".toList kids =
      Converter.tableRows { c with limit := c.limit - 1 } kids := if_pos rfl

/-- When the rows can be taken from a table element, it is converted to the table that they make. -/
theorem convert_table {c c₁ : Converter} {name : Text} {kids : List Node} {rows : List TableRow}
    (hrole : Role.ofName name = .table) (hroom : 0 < c.limit)
    (hrows : (c.extractRows name kids).outcome = .ok (rows, c₁)) (depth : Nat)
    (attributes : Attributes) :
    (∃ c₂, (c.convert depth (.element name attributes kids)).outcome =
        .ok (renderTable rows, c₂)) ∧
      ∀ r ∈ rows, ∀ t ∈ r.cells, IsFlat t := by
  obtain ⟨room, hr⟩ : ∃ room, c.room = room + 1 := ⟨c.room - 1, by rw [Converter.room]; omega⟩
  have hinner : Converter.room { c with limit := c.limit - 1 } = room := by
    rw [Converter.room] at hr ⊢
    simp only
    omega
  have hwalk : walk c.room depth (.element name attributes kids) =
      tableMarkdown (tableRowsOf room name kids) := by
    rw [hr, walk_element_succ, shown, hrole]
  obtain ⟨hvalue, hfault⟩ : (tableRowsOf room name kids).value = rows ∧
      (tableRowsOf room name kids).marks.any Mark.isFault = false := by
    unfold Converter.extractRows at hrows
    rw [tableRowsOf]
    split at hrows
    · rename_i hname
      rw [if_pos hname, ← hinner]
      obtain ⟨hfault, hvalue, -⟩ := (Converter.finish_outcome_iff ..).mp hrows
      exact ⟨hvalue.symm, hfault⟩
    · rename_i hname
      rw [if_neg hname]
      exact ⟨(congrArg Prod.fst (Except.ok.inj hrows) :), rfl⟩
  constructor
  · refine ⟨_, (Converter.finish_outcome_iff c _ _ _).mpr ⟨?_, ?_, rfl⟩⟩
    · rw [hwalk, any_marks_tableMarkdown fun _ => rfl, hfault]
    · rw [hwalk, tableMarkdown, hvalue]
  · rw [← hvalue, tableRowsOf]
    split
    · exact isFlat_walkRows room false kids
    · simp [Marked.clear]

/-- The cells of a row in some columns are flat when all its cells are. -/
theorem isFlat_pick {cells : List Text} (h : ∀ t ∈ cells, IsFlat t) (columns : List Nat) :
    ∀ t ∈ pick columns cells, IsFlat t := by
  intro t ht
  obtain ⟨i, -, rfl⟩ := List.mem_map.mp ht
  by_cases hi : i < cells.length
  · rw [List.getD_eq_getElem _ _ hi]
    exact h _ (List.getElem_mem hi)
  · rw [List.getD_eq_default _ _ (by omega)]
    exact isFlat_nil

/-- A row in its columns reads back from its line. -/
theorem readRow_pick {r : TableRow} {columns : List Nat} (hne : columns ≠ [])
    (h : ∀ t ∈ r.cells, IsFlat t) :
    readRow (renderRow (pick columns r.cells)) = some (pick columns r.cells) :=
  readRow_renderRow (by simpa [pick] using hne) (isFlat_pick h columns)

/-- Cells without breaks make a line without breaks. -/
theorem isBreak_barLine {cells : List Text} (hne : cells ≠ [])
    (h : ∀ t ∈ cells, ∀ c ∈ t, isBreak c = false) : ∀ c ∈ barLine cells, isBreak c = false := by
  intro c hc
  rw [barLine_eq hne] at hc
  simp only [padded, List.mem_cons, List.mem_flatMap, List.mem_append, List.not_mem_nil,
    or_false] at hc
  rcases hc with rfl | ⟨t, ht, (rfl | hc | rfl) | rfl⟩
  · decide
  · decide
  · exact h t ht c hc
  · decide
  · decide

/-- Escaping a flat cell brings no break into it. -/
theorem isBreak_escapeCell {t : Text} (h : IsFlat t) : ∀ c ∈ escapeCell t, isBreak c = false := by
  intro c hc
  rw [escapeCell, h.flatten_eq, mem_replace] at hc
  rcases hc with ⟨hmark, -⟩ | ⟨-, hc⟩
  · simp only [List.mem_cons, List.not_mem_nil, or_false] at hmark
    rcases hmark with rfl | rfl <;> decide
  · exact h.isBreak_eq_false c hc

/-- The lines of a table are read back from their join. -/
theorem lines_unlines_tableLines {columns : List Nat} {header : TableRow} {others : List TableRow}
    (hne : columns ≠ []) (hflat : ∀ r ∈ header :: others, ∀ t ∈ r.cells, IsFlat t) :
    lines (unlines (tableLines columns header others)) = tableLines columns header others := by
  have hrow : ∀ r ∈ header :: others, ∀ c ∈ renderRow (pick columns r.cells),
      isBreak c = false := by
    intro r hr
    refine isBreak_barLine (by simpa [pick] using hne) ?_
    intro t ht
    obtain ⟨u, hu, rfl⟩ := List.mem_map.mp ht
    exact isBreak_escapeCell (isFlat_pick (hflat r hr) columns u hu)
  have hrule : ∀ c ∈ barLine (List.replicate columns.length ['-', '-', '-']),
      isBreak c = false := by
    refine isBreak_barLine (by simpa using hne) ?_
    intro t ht c hc
    rw [List.eq_of_mem_replicate ht] at hc
    obtain rfl : c = '-' := by simpa using hc
    decide
  apply lines_unlines
  · intro l hl
    simp only [tableLines, List.mem_cons, List.mem_map] at hl
    rcases hl with rfl | rfl | ⟨r, -, rfl⟩ <;> exact List.cons_ne_nil _ _
  · intro l hl
    simp only [tableLines, List.mem_cons, List.mem_map] at hl
    rcases hl with rfl | rfl | ⟨r, hr, rfl⟩
    · exact hrow header List.mem_cons_self
    · exact hrule
    · exact hrow r (List.mem_cons_of_mem _ hr)

/-- A converted table reads back to its grid. When its rows can be taken from it, it is nothing
without rows or without columns that have content. Otherwise it stands between two empty lines and
has one line more than rows: the second line is the rule, and cutting the others at their bars gives
the rows in the columns with content, the header row first and the remaining ones in order. -/
theorem convert_table_reads_back (c c₁ : Converter) (depth : Nat) (name : Text)
    (attributes : Attributes) (kids : List Node) (rows : List TableRow)
    (hrole : Role.ofName name = .table) (hroom : 0 < c.limit)
    (hrows : (c.extractRows name kids).outcome = .ok (rows, c₁)) :
    ∃ t c₂ columns, (c.convert depth (.element name attributes kids)).outcome = .ok (t, c₂) ∧
      ContentColumns rows columns ∧
      (rows = [] ∨ columns = [] → t = []) ∧
      (rows ≠ [] → columns ≠ [] → ∃ body h header,
        t = ['\n', '\n'] ++ body ++ ['\n', '\n'] ∧
        (lines body).length = rows.length + 1 ∧
        (lines body)[1]? = some (barLine (List.replicate columns.length ['-', '-', '-'])) ∧
        HeaderPlace rows h ∧ rows[h]? = some header ∧
        ((lines body).eraseIdx 1).map readRow =
          (header :: rows.eraseIdx h).map fun r => some (pick columns r.cells)) := by
  obtain ⟨⟨c₂, hconvert⟩, hflat⟩ := convert_table hrole hroom hrows depth attributes
  refine ⟨renderTable rows, c₂, columnsOf rows, hconvert, contentColumns_columnsOf rows,
    renderTable_eq_nil, ?_⟩
  intro hne hcolumns
  obtain ⟨header, hheader, hrender⟩ := renderTable_eq hne hcolumns
  have hplace := headerPlace_headerIndex rows
  have hall : ∀ r ∈ header :: rows.eraseIdx (headerIndex rows), ∀ t ∈ r.cells, IsFlat t := by
    intro r hr
    rcases List.mem_cons.mp hr with rfl | hr
    · exact hflat r (List.mem_of_getElem? hheader)
    · exact hflat r (List.mem_of_mem_eraseIdx hr)
  have hlines := lines_unlines_tableLines hcolumns hall
  refine ⟨_, headerIndex rows, header, hrender, ?_, ?_, hplace, hheader, ?_⟩
  · have hlt := hplace.lt_length hne
    rw [hlines, tableLines]
    simp only [List.length_cons, List.length_map, List.length_eraseIdx_of_lt hlt]
    omega
  · rw [hlines]
    rfl
  · rw [hlines, tableLines, List.eraseIdx_cons_succ, List.eraseIdx_zero, List.tail_cons,
      List.map_cons, List.map_map, List.map_cons]
    congr 1
    · exact readRow_pick hcolumns (hall header List.mem_cons_self)
    · refine List.map_congr_left fun r hr => ?_
      exact readRow_pick hcolumns (hall r (List.mem_cons_of_mem _ hr))

/-- Bars, a backslash in front of a bar and one at the end of a cell, an empty column, and a header
row behind a body row. -/
theorem convert_table_reads_back_bars :
    let c : Converter := ⟨9, false⟩
    let kids : List Node := [
      .element "tr".toList [] [
        .element "td".toList [] [.text .plain "a\\|b|".toList],
        .element "td".toList [] [.text .plain " ".toList],
        .element "TD".toList [] [.text .plain "c\\".toList]],
      .element "thead".toList [] [.element "tr".toList [] [
        .element "th".toList [] [.text .plain "x".toList, .element "br".toList [] [],
          .text .plain "y".toList]]]]
    let rows : List TableRow := [⟨["a\\|b|".toList, [], "c\\".toList], false, false⟩,
      ⟨["x y".toList], true, true⟩]
    (Role.ofName "table".toList = .table ∧ 0 < c.limit ∧
      (c.extractRows "table".toList kids).outcome = .ok (rows, ⟨8, false⟩)) ∧
    ∃ t c₂ columns, (c.convert 0 (.element "table".toList [] kids)).outcome = .ok (t, c₂) ∧
      ContentColumns rows columns ∧
      (rows = [] ∨ columns = [] → t = []) ∧
      (rows ≠ [] → columns ≠ [] → ∃ body h header,
        t = ['\n', '\n'] ++ body ++ ['\n', '\n'] ∧
        (lines body).length = rows.length + 1 ∧
        (lines body)[1]? = some (barLine (List.replicate columns.length ['-', '-', '-'])) ∧
        HeaderPlace rows h ∧ rows[h]? = some header ∧
        ((lines body).eraseIdx 1).map readRow =
          (header :: rows.eraseIdx h).map fun r => some (pick columns r.cells)) := by
  intro c kids rows
  have hrows : (c.extractRows "table".toList kids).outcome = .ok (rows, ⟨8, false⟩) := by
    rw [Converter.extractRows_table]
    exact (Converter.finish_outcome_iff ..).mpr ⟨by decide, by decide, by decide⟩
  exact ⟨⟨by decide, by decide, hrows⟩,
    convert_table_reads_back c _ 0 _ [] kids rows (by decide) (by decide) hrows⟩

end PageMarkdown.Markdown
