import PageMarkdown.Proofs.BlankRuns
import PageMarkdown.Proofs.CellText
import PageMarkdown.Proofs.Element
import PageMarkdown.Proofs.Text.Ink

/-!
# The ink of Markdown

Whatever Markdown puts around a content, all that is seen of the content is seen
between its marks, in the same order: what it leaves out is blank, and what it
escapes it keeps. Only a table changes the order of its rows, so there each row is
looked at by itself.
-/

namespace PageMarkdown.Markdown

open Text Html

/-! ## Layout -/

theorem ink_collapseBlankLines (t : Text) : ink (collapseBlankLines t) = ink t := by
  refine (gapsDeleted_collapseFrom t).1.filter_eq ?_
  intro c hc
  simp only [isGap, Bool.or_eq_true, decide_eq_true_eq] at hc
  rcases hc with (rfl | rfl) | rfl <;> decide

theorem ink_settle (t : Text) : ink (Converter.settle t) = ink t := by
  rw [Converter.settle, ink_trim, ink_collapseBlankLines, ink_trim]

theorem ink_dropEmptyLines (t : Text) : ink (dropEmptyLines t) = ink t :=
  ink_congr (sameWords_dropEmptyLines t).words

theorem ink_normalizeCell (t : Text) : ink (normalizeCell t) = ink t :=
  ink_congr (words_normalizeCell t)

/-! ## Blocks and marks -/

theorem inkWithin_block (t : Text) : InkWithin t (block t) := by
  cases t with
  | nil => exact .nil _
  | cons c t => exact inkWithin_between _ _ _

theorem inkWithin_enclosed (mark t : Text) : InkWithin t (enclosed mark t) := by
  cases t with
  | nil => exact .nil _
  | cons c t => exact inkWithin_between _ _ _

theorem inkWithin_headingMarkdown (level : Nat) (t : Text) :
    InkWithin t (headingMarkdown level t) := by
  cases t with
  | nil => exact .nil _
  | cons c t =>
    have hmark : InkWithin (c :: t) (List.replicate level '#' ++ ' ' :: c :: t) := by
      rw [List.append_cons]
      exact inkWithin_append_left _ _
    exact hmark.trans (inkWithin_block _)

theorem inkWithin_codeMarkdown (t : Text) : InkWithin t (codeMarkdown t) :=
  (InkWithin.of_eq (ink_trim t).symm).trans
    ((inkWithin_replace (by decide) _).trans (inkWithin_enclosed _ _))

theorem inkWithin_preformattedMarkdown (t : Text) : InkWithin t (preformattedMarkdown t) := by
  refine (InkWithin.of_eq (ink_trimRight t).symm).trans ?_
  rw [preformattedMarkdown]
  cases trimRight t with
  | nil => exact .nil _
  | cons c body =>
    simp only [List.isEmpty_cons, Bool.false_eq_true, if_false]
    refine InkWithin.trans ?_ (inkWithin_block _)
    rw [List.append_assoc]
    exact inkWithin_between ['\x60', '\x60', '\x60', '\n'] (c :: body) _

theorem inkWithin_quoteMarkdown (t : Text) : InkWithin t (quoteMarkdown t) := by
  have hlines : ink t = ink ((lines t).filter fun line => !isAllBlank line).flatten := by
    rw [ink_filter_not_isAllBlank, ink_lines]
  refine (InkWithin.of_eq hlines).trans (InkWithin.trans ?_ (inkWithin_block _))
  rw [InkWithin, ink_unlines]
  refine InkWithin.flatten_map fun line _ => ?_
  exact (InkWithin.of_eq (ink_trim line).symm).trans (inkWithin_append_left ['>', ' '] _)

theorem inkWithin_linkMarkdown (target t : Text) : InkWithin t (linkMarkdown target t) := by
  cases t with
  | nil => exact .nil _
  | cons c t =>
    have hshown : firstFilled (c :: t) target = c :: t := rfl
    rw [linkMarkdown, hshown]
    split
    · exact .refl _
    · rw [List.append_assoc]
      exact inkWithin_between ['['] (c :: t) _

/-! ## Lists -/

theorem inkWithin_continuationLine (least : Nat) (line : Text) :
    InkWithin line (continuationLine least line) :=
  (InkWithin.of_eq (ink_trim line).symm).trans (inkWithin_append_left _ _)

/-- All of an item is seen in its lines. -/
theorem inkWithin_itemLines (ordered : Bool) (depth number : Nat) (item : Text) :
    InkWithin item (itemLines ordered depth number item).flatten := by
  have hlines : ink item = ink (lines (dropEmptyLines item)).flatten := by
    rw [ink_lines, ink_dropEmptyLines]
  refine (InkWithin.of_eq hlines).trans ?_
  rw [itemLines]
  cases lines (dropEmptyLines item) with
  | nil => exact .refl _
  | cons first rest =>
    refine InkWithin.append ?_ ?_
    · rw [List.append_cons]
      exact (InkWithin.of_eq (ink_trim first).symm).trans (inkWithin_append_left _ _)
    · refine (InkWithin.of_eq (ink_filter_not_isAllBlank rest).symm).trans ?_
      exact InkWithin.flatten_map fun line _ => inkWithin_continuationLine _ line

theorem inkWithin_listLines (ordered : Bool) (depth number : Nat) (items : List Text) :
    InkWithin items.flatten (listLines ordered depth number items).flatten := by
  induction items generalizing number with
  | nil => exact .nil _
  | cons item items ih =>
    rw [listLines, List.flatten_append]
    exact (inkWithin_itemLines ordered depth number item).append (ih (number + 1))

theorem inkWithin_renderList (ordered : Bool) (depth : Nat) (items : List Text) :
    InkWithin items.flatten (renderList ordered depth items) := by
  refine (inkWithin_listLines ordered depth 1 items).trans ?_
  rw [renderList]
  split
  · rename_i h
    rw [h]
    exact .nil _
  · exact (InkWithin.of_eq (ink_unlines _).symm).trans (inkWithin_between _ _ _)

/-- An item that is left out is blank. -/
theorem ink_item (t : Text) : ink (if isAllBlank t then [] else [trim t]).flatten = ink t := by
  split
  · rename_i h
    exact (ink_of_isAllBlank h).symm
  · rw [List.flatten_singleton, ink_trim]

/-! ## Tables -/

/-- The cells of one cell element have the ink of its content. -/
theorem ink_cellTexts (attributes : Attributes) (content : Text) :
    ink (cellTexts attributes content).flatten = ink content := by
  rw [cellTexts, ink_flatten_cons, List.flatten_replicate_nil, ink_normalizeCell, ink_trim]
  exact List.append_nil _

theorem inkWithin_escapeCell (t : Text) : InkWithin t (escapeCell t) :=
  (InkWithin.of_eq (ink_flatten t).symm).trans (inkWithin_replace (by decide) _)

theorem inkWithin_barLine (cells : List Text) : InkWithin cells.flatten (barLine cells) := by
  cases cells with
  | nil => exact .nil _
  | cons cell cells =>
    rw [barLine_eq (List.cons_ne_nil cell cells), List.flatMap_def]
    refine InkWithin.trans (InkWithin.flatten_map fun t _ => ?_) (inkWithin_append_left ['|'] _)
    exact (inkWithin_between [' '] t [' ', '|']).trans (.of_eq (by simp [padded]))

theorem inkWithin_renderRow (cells : List Text) : InkWithin cells.flatten (renderRow cells) :=
  (InkWithin.flatten_map fun t _ => inkWithin_escapeCell t).trans (inkWithin_barLine _)

/-- All of each row is seen in the table. -/
theorem inkWithin_renderTable {rows : List TableRow} {r : TableRow} (h : r ∈ rows) :
    InkWithin r.cells.flatten (renderTable rows) := by
  rw [← flatten_pick_columnsOf h]
  by_cases hcolumns : columnsOf rows = []
  · rw [hcolumns]
    exact .nil _
  · obtain ⟨header, hheader, hrender⟩ := renderTable_eq (List.ne_nil_of_mem h) hcolumns
    have hline : renderRow (pick (columnsOf rows) r.cells) ∈
        tableLines (columnsOf rows) header (rows.eraseIdx (headerIndex rows)) := by
      rw [tableLines, List.mem_cons, List.mem_cons, List.mem_map]
      obtain ⟨i, hi, rfl⟩ := List.getElem_of_mem h
      by_cases hplace : i = headerIndex rows
      · subst hplace
        rw [List.getElem?_eq_getElem hi, Option.some.injEq] at hheader
        exact .inl (by rw [hheader])
      · exact .inr (.inr ⟨rows[i], List.mem_eraseIdx_iff_getElem.mpr ⟨i, hi, hplace, rfl⟩, rfl⟩)
    rw [hrender]
    refine ((inkWithin_renderRow _).trans (inkWithin_of_mem hline)).trans ?_
    exact (InkWithin.of_eq (ink_unlines _).symm).trans (inkWithin_between _ _ _)

/-! ## Elements -/

/-- An element sets its content without loss. -/
theorem inkWithin_frame {name : Text} {attributes : Attributes} {kids : List Node}
    {frame : Text → Text} (h : shown name attributes kids = .content frame) (t : Text) :
    InkWithin t (frame t) := by
  have htrim : InkWithin t (trim t) := .of_eq (ink_trim t).symm
  rw [shown] at h
  cases hrole : Role.ofName name <;>
    simp only [hrole, Shown.content.injEq, reduceCtorEq] at h <;> subst h
  case heading level => exact htrim.trans (inkWithin_headingMarkdown level _)
  case paragraph => exact htrim.trans (inkWithin_block _)
  case strong => exact htrim.trans (inkWithin_enclosed _ _)
  case emphasis => exact htrim.trans (inkWithin_enclosed _ _)
  case link => exact htrim.trans (inkWithin_linkMarkdown _ _)
  case quote => exact htrim.trans (inkWithin_quoteMarkdown _)
  case transparent => exact .refl t

end PageMarkdown.Markdown
