import PageMarkdown.Proofs.Ink
import PageMarkdown.Proofs.Text.Letters

/-!
# The letters of Markdown

Whatever Markdown puts around a content, it adds no letters and takes none away:
marks, markers, bars and indentations are no letters, and what is left out is
blank. A table only changes the order, since its header row comes first.
-/

namespace PageMarkdown.Markdown

open Text Html

/-! ## Layout -/

theorem letters_settle (t : Text) : letters (Converter.settle t) = letters t :=
  letters_congr (ink_settle t)

theorem letters_dropEmptyLines (t : Text) : letters (dropEmptyLines t) = letters t :=
  letters_congr (ink_dropEmptyLines t)

/-! ## Blocks and marks -/

/-- What stands before and after a content does not count when it has no letters. -/
theorem letters_between {before after : Text} (hbefore : letters before = [])
    (hafter : letters after = []) (t : Text) : letters (before ++ t ++ after) = letters t := by
  rw [letters_append, letters_append, hbefore, hafter, List.nil_append, List.append_nil]

theorem letters_block (t : Text) : letters (block t) = letters t := by
  cases t with
  | nil => rfl
  | cons c t => exact letters_between rfl rfl (c :: t)

/-- Marks around a content add no letters when they are none. -/
theorem letters_enclosed {mark : Text} (h : letters mark = []) (t : Text) :
    letters (enclosed mark t) = letters t := by
  cases t with
  | nil => rfl
  | cons c t => exact letters_between h h (c :: t)

theorem letters_headingMarkdown (level : Nat) (t : Text) :
    letters (headingMarkdown level t) = letters t := by
  have hmark : letters (List.replicate level '#') = [] := by
    refine letters_eq_nil fun c hc => ?_
    rw [List.eq_of_mem_replicate hc]
    decide
  cases t with
  | nil => rfl
  | cons c t =>
    have he : headingMarkdown level (c :: t) =
        block (List.replicate level '#' ++ ' ' :: c :: t) := rfl
    rw [he, letters_block, letters_append, hmark, List.nil_append,
      letters_cons_of_not (by decide)]

theorem letters_codeMarkdown (t : Text) : letters (codeMarkdown t) = letters t := by
  rw [codeMarkdown, letters_enclosed (by decide), letters_replace (by decide) (by decide),
    letters_trim]

theorem letters_preformattedMarkdown (t : Text) :
    letters (preformattedMarkdown t) = letters t := by
  rw [← letters_trimRight t, preformattedMarkdown]
  cases trimRight t with
  | nil => rfl
  | cons c body =>
    have he : ['\x60', '\x60', '\x60'] ++ '\n' :: (c :: body) ++
        '\n' :: ['\x60', '\x60', '\x60'] =
        ['\x60', '\x60', '\x60', '\n'] ++ (c :: body) ++ ['\n', '\x60', '\x60', '\x60'] := by
      simp
    simp only [List.isEmpty_cons, Bool.false_eq_true, if_false]
    rw [letters_block, he]
    exact letters_between rfl rfl (c :: body)

theorem letters_quoteMarkdown (t : Text) : letters (quoteMarkdown t) = letters t := by
  rw [quoteMarkdown, letters_block, letters_unlines, letters_flatten_map,
    letters_filter_not_isAllBlank, letters_lines]
  intro line _
  rw [letters_cons_of_not (by decide), letters_cons_of_not (by decide), letters_trim]

/-- Without a target a link is its text. -/
theorem linkMarkdown_nil (t : Text) : linkMarkdown [] t = t := by
  cases t <;> rfl

/-! ## Lists -/

theorem letters_indentation (depth : Nat) : letters (indentation depth) = [] := by
  refine letters_eq_nil fun c hc => ?_
  rw [List.eq_of_mem_replicate hc]
  decide

theorem letters_marker (ordered : Bool) (number : Nat) : letters (marker ordered number) = [] := by
  cases ordered with
  | false => rfl
  | true =>
    have hdot : letters ['.'] = [] := rfl
    rw [marker, if_pos rfl, letters_append, letters_ofNat, hdot, List.append_nil]

theorem letters_continuationLine (least : Nat) (line : Text) :
    letters (continuationLine least line) = letters line := by
  rw [continuationLine, letters_append, letters_trim, letters_eq_nil, List.nil_append]
  intro c hc
  rw [List.eq_of_mem_replicate hc]
  decide

theorem letters_continuationLines (indent : Nat) (ls : List Text) :
    letters (continuationLines indent ls).flatten = letters ls.flatten := by
  rw [continuationLines, letters_flatten_map fun line _ => letters_continuationLine _ line,
    letters_filter_not_isAllBlank]

/-- An item keeps its letters, however its lines are indented. -/
theorem letters_itemLines (ordered : Bool) (depth number : Nat) (item : Text) :
    letters (itemLines ordered depth number item).flatten = letters item := by
  have hlines : letters (lines (dropEmptyLines item)).flatten = letters item := by
    rw [letters_lines, letters_dropEmptyLines]
  rw [← hlines, itemLines]
  cases lines (dropEmptyLines item) with
  | nil => rfl
  | cons first rest =>
    simp only
    rw [letters_flatten_cons, letters_flatten_cons, letters_continuationLines, letters_append,
      letters_append, letters_indentation, letters_marker, List.nil_append, List.nil_append,
      letters_cons_of_not (by decide), letters_trim]

theorem letters_listLines (ordered : Bool) (depth number : Nat) (items : List Text) :
    letters (listLines ordered depth number items).flatten = letters items.flatten := by
  induction items generalizing number with
  | nil => rfl
  | cons item items ih =>
    rw [listLines, List.flatten_append, letters_append, letters_itemLines, ih,
      letters_flatten_cons]

theorem letters_renderList (ordered : Bool) (depth : Nat) (items : List Text) :
    letters (renderList ordered depth items) = letters items.flatten := by
  rw [← letters_listLines ordered depth 1, renderList]
  split
  · rename_i h
    rw [h]
    rfl
  · rw [letters_append, letters_append, letters_unlines]
    exact List.append_nil _

/-- Among the items of a list a blank content is left out and any other one is trimmed. -/
theorem letters_item (t : Text) :
    letters (if isAllBlank t then [] else [trim t]).flatten = letters t :=
  letters_congr (ink_item t)

/-! ## Tables -/

/-- The cells of one cell element have the letters of its content. -/
theorem letters_cellTexts (attributes : Attributes) (content : Text) :
    letters (cellTexts attributes content).flatten = letters content :=
  letters_congr (ink_cellTexts attributes content)

theorem letters_escapeCell (t : Text) : letters (escapeCell t) = letters t := by
  rw [escapeCell, letters_replace (by decide) (by decide), letters_flatten]

theorem letters_barLine (cells : List Text) : letters (barLine cells) = letters cells.flatten := by
  cases cells with
  | nil => rfl
  | cons cell cells =>
    have hpadded : ∀ t : Text, letters (padded t ++ ['|']) = letters t := by
      intro t
      simp [padded, letters_cons_of_not (c := ' ') (by decide),
        letters_cons_of_not (c := '|') (by decide)]
    rw [barLine_eq (List.cons_ne_nil cell cells), letters_cons_of_not (by decide),
      List.flatMap_def, letters_flatten_map fun t _ => hpadded t]

theorem letters_renderRow (cells : List Text) :
    letters (renderRow cells) = letters cells.flatten := by
  rw [renderRow, letters_barLine, letters_flatten_map fun t _ => letters_escapeCell t]

/-- The rule below the header row has no letters. -/
theorem letters_rule (width : Nat) :
    letters (barLine (List.replicate width ['-', '-', '-'])) = [] := by
  rw [letters_barLine]
  refine letters_eq_nil fun c hc => ?_
  obtain ⟨t, ht, hc⟩ := List.mem_flatten.mp hc
  rw [List.eq_of_mem_replicate ht] at hc
  obtain rfl : c = '-' := by simpa using hc
  decide

/-- The rows as they are written: the header row first. -/
def headerFirst (rows : List TableRow) : List TableRow :=
  rows[headerIndex rows]?.toList ++ rows.eraseIdx (headerIndex rows)

/-- A table has the letters of its rows as they are written. -/
theorem letters_renderTable (rows : List TableRow) :
    letters (renderTable rows) = letters ((headerFirst rows).map (·.cells.flatten)).flatten := by
  have hmem : ∀ r ∈ headerFirst rows, r ∈ rows := by
    intro r hr
    rcases List.mem_append.mp hr with hr | hr
    · exact List.mem_of_getElem? (Option.mem_toList.mp hr)
    · exact List.mem_of_mem_eraseIdx hr
  have hcells : ((headerFirst rows).map fun r => (pick (columnsOf rows) r.cells).flatten) =
      (headerFirst rows).map (·.cells.flatten) :=
    List.map_congr_left fun r hr => flatten_pick_columnsOf (hmem r hr)
  rw [← hcells]
  by_cases hnone : rows = [] ∨ columnsOf rows = []
  · rw [renderTable_eq_nil hnone]
    rcases hnone with rfl | hcolumns
    · rfl
    · simp [hcolumns, pick]
  · obtain ⟨hrows, hcolumns⟩ := not_or.mp hnone
    obtain ⟨header, hheader, hrender⟩ := renderTable_eq hrows hcolumns
    rw [hrender, letters_between rfl rfl, letters_unlines, tableLines, letters_flatten_cons,
      letters_flatten_cons, letters_rule, List.nil_append, letters_renderRow, headerFirst, hheader]
    simp only [Option.toList_some, List.singleton_append, List.map_cons, letters_flatten_cons]
    rw [letters_flatten_congr fun r _ => letters_renderRow _]

/-! ## Elements -/

/-- The node is a link with a target. -/
def hasTarget : Node → Bool
  | .text _ _ => false
  | .element name attributes _ =>
    Role.ofName name = .link && !isAllBlank (attributes.text "href")

/-- No element but a link with a target adds letters to the content that it frames. -/
theorem letters_frame {name : Text} {attributes : Attributes} {kids : List Node}
    {frame : Text → Text} (hshown : shown name attributes kids = .content frame)
    (htarget : hasTarget (.element name attributes kids) = false) (t : Text) :
    letters (frame t) = letters t := by
  rw [shown] at hshown
  cases hrole : Role.ofName name <;>
    simp only [hrole, Shown.content.injEq, reduceCtorEq] at hshown <;> subst hshown
  case heading level => exact (letters_headingMarkdown level _).trans (letters_trim t)
  case paragraph => exact (letters_block _).trans (letters_trim t)
  case strong => exact (letters_enclosed rfl _).trans (letters_trim t)
  case emphasis => exact (letters_enclosed rfl _).trans (letters_trim t)
  case link =>
    have hblank : isAllBlank (attributes.text "href") = true := by
      simpa [hasTarget, hrole] using htarget
    simp only [(trim_eq_nil_iff _).mpr hblank, linkMarkdown_nil, letters_trim]
  case quote => exact (letters_quoteMarkdown _).trans (letters_trim t)
  case transparent => rfl

end PageMarkdown.Markdown
