import PageMarkdown.Proofs.Grid
import PageMarkdown.Proofs.Text.Words

/-!
# The text of a cell

Putting a cell on one line goes through breaks, empty lines and runs of blanks one
after another. Each of these steps leaves the words of the cell alone, and what
comes out is flat, so the whole is the text that flattening gives at once. A flat
cell is left alone when it is written, but for its bars, and so it is written
empty exactly when it counts as empty for its column.
-/

namespace PageMarkdown.Markdown

open Text Html

/-! ## Words through the steps -/

/-- Of line feeds side by side one stays in front of what follows them. -/
theorem sameWords_dropEmptyLines (t : Text) : SameWords (dropEmptyLines t) t := by
  induction t with
  | nil => exact .refl []
  | cons c t ih =>
    rw [dropEmptyLines]
    split
    · rename_i hfeeds
      obtain ⟨hc, hnext⟩ := Bool.and_eq_true_iff.mp hfeeds
      obtain rfl : c = '\n' := of_decide_eq_true hc
      -- The text begins with a line feed itself, so neither it nor what is left starts with a word.
      have hstart : ¬ StartsSolid t := by
        rintro ⟨d, hd, hsolid⟩
        obtain rfl : '\n' = d := Option.some.inj ((of_decide_eq_true hnext).symm.trans hd)
        cases hsolid
      exact ⟨ih.words.trans (words_cons_blank rfl t).symm,
        iff_of_false (mt ih.starts.mp hstart) (not_startsSolid_cons rfl t)⟩
    · exact ih.cons c

/-- A run of blanks becomes one space, or stays. -/
theorem words_joinLinesFrom (t : Text) :
    words (joinLinesFrom true t) = words t ∧ SameWords (joinLinesFrom false t) t := by
  induction t with
  | nil => exact ⟨rfl, .refl []⟩
  | cons c t ih =>
    obtain ⟨htrue, hfalse⟩ := ih
    rw [joinLinesFrom, joinLinesFrom]
    cases hc : isBlank c with
    | true =>
      refine ⟨htrue.trans (words_cons_blank hc t).symm, ?_⟩
      rw [Bool.true_and]
      split
      · exact .of_blank rfl hc htrue
      · exact hfalse.cons c
    | false => exact ⟨(hfalse.cons c).words, hfalse.cons c⟩

/-- A cell keeps its words. -/
theorem words_normalizeCell (t : Text) : words (normalizeCell t) = words t := by
  rw [normalizeCell, words_trim, words_squeeze, (words_joinLinesFrom _).2.words, words_trim,
    (sameWords_dropEmptyLines _).words, (sameWords_unifyBreaks t).words]

/-- Putting a cell on one line is flattening it. -/
theorem normalizeCell_eq_flatten (t : Text) : normalizeCell t = flatten t := by
  calc normalizeCell t = unwords (words (normalizeCell t)) :=
        (isFlat_normalizeCell t).unwords_words.symm
    _ = unwords (words t) := by rw [words_normalizeCell]
    _ = flatten t := (flatten_eq_unwords t).symm

/-! ## Cells as they are written -/

/-- A flat cell is written with its bars escaped. -/
theorem escapeCell_of_isFlat {t : Text} (h : IsFlat t) : escapeCell t = escapeBars t := by
  rw [escapeCell, h.flatten_eq]

theorem escapeBars_eq_nil_iff (t : Text) : escapeBars t = [] ↔ t = [] := by
  cases t with
  | nil => exact iff_of_true rfl rfl
  | cons c t =>
    by_cases hc : c = '|'
    · rw [hc, escapeBars_bar]
      exact iff_of_false (List.cons_ne_nil _ _) (List.cons_ne_nil _ _)
    · rw [escapeBars_cons hc]
      exact iff_of_false (List.cons_ne_nil _ _) (List.cons_ne_nil _ _)

/-- A flat cell is written empty when it is empty. -/
theorem escapeCell_eq_nil_iff {t : Text} (h : IsFlat t) : escapeCell t = [] ↔ t = [] := by
  rw [escapeCell_of_isFlat h, escapeBars_eq_nil_iff]

/-- In every column a row has a flat cell, if only an empty one that it is padded with. -/
theorem isFlat_getD {cells : List Text} (h : ∀ t ∈ cells, IsFlat t) (i : Nat) :
    IsFlat (cells.getD i []) := by
  by_cases hi : i < cells.length
  · rw [List.getD_eq_getElem _ _ hi]
    exact h _ (List.getElem_mem hi)
  · rw [List.getD_eq_default _ _ (Nat.le_of_not_lt hi)]
    exact isFlat_nil

/-- Whatever breaks and blanks a cell has, it is put on one line as its words with single spaces
between them, which is the text that flattening gives. So both do nothing a second time, and all
that is still done to a cell when it is written is to escape its bars. In every table, a cell is
written empty exactly when it was empty as the columns were chosen, and those are the columns in
which something is written. -/
theorem normalizeCell_eq_words :
    (∀ t : Text, normalizeCell t = flatten t ∧ flatten t = unwords (words t) ∧
      normalizeCell (normalizeCell t) = normalizeCell t ∧ flatten (flatten t) = flatten t ∧
      escapeCell (normalizeCell t) = escapeBars (normalizeCell t)) ∧
    ∀ (room : Nat) (inHead : Bool) (nodes : List Node),
      let rows := (walkRows room inHead nodes).value
      (∀ r ∈ rows, ∀ i, escapeCell (r.cells.getD i []) = [] ↔ r.cells.getD i [] = []) ∧
        ∀ i, i ∈ columnsOf rows ↔ ∃ r ∈ rows, escapeCell (r.cells.getD i []) ≠ [] := by
  constructor
  · intro t
    have hcell := normalizeCell_eq_flatten t
    have hflat := isFlat_flatten t
    refine ⟨hcell, flatten_eq_unwords t, ?_, hflat.flatten_eq, ?_⟩
    · rw [normalizeCell_eq_flatten (normalizeCell t), hcell, hflat.flatten_eq]
    · exact escapeCell_of_isFlat (isFlat_normalizeCell t)
  · intro room inHead nodes rows
    have hempty : ∀ r ∈ rows, ∀ i, escapeCell (r.cells.getD i []) = [] ↔ r.cells.getD i [] = [] :=
      fun r hr i => escapeCell_eq_nil_iff (isFlat_getD (isFlat_walkRows room inHead nodes r hr) i)
    refine ⟨hempty, fun i => ?_⟩
    rw [(contentColumns_columnsOf rows).mem_iff]
    constructor
    · rintro ⟨r, hr, hcell⟩
      exact ⟨r, hr, mt (hempty r hr i).mp hcell⟩
    · rintro ⟨r, hr, hcell⟩
      exact ⟨r, hr, mt (hempty r hr i).mpr hcell⟩

end PageMarkdown.Markdown
