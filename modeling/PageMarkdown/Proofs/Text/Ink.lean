import PageMarkdown.Proofs.Text.Replace
import PageMarkdown.Proofs.Text.Words

/-!
# The ink of a text

What is seen of a text are its characters other than blanks, in order. They are
the characters of its words, so whatever leaves the words alone leaves the ink
alone, and so does a cut into lines, since what ends a line is blank. A text whose
ink is found in another one, with more between it, has been set there without loss.
-/

namespace PageMarkdown.Text

/-- The characters of a text that are no blanks, in order. -/
def ink (t : Text) : Text := t.filter fun c => !isBlank c

@[simp] theorem ink_nil : ink [] = [] := rfl

@[simp] theorem ink_append (t u : Text) : ink (t ++ u) = ink t ++ ink u := List.filter_append ..

/-- A blank leaves no ink. -/
theorem ink_cons_blank {c : Char} (h : isBlank c = true) (t : Text) : ink (c :: t) = ink t :=
  List.filter_cons_of_neg (by simp [h])

/-- Any other character does. -/
theorem ink_cons_solid {c : Char} (h : isBlank c = false) (t : Text) : ink (c :: t) = c :: ink t :=
  List.filter_cons_of_pos (by simp [h])

theorem ink_cons (c : Char) (t : Text) : ink (c :: t) = ink [c] ++ ink t :=
  ink_append [c] t

theorem ink_of_blank {t : Text} (h : ∀ c ∈ t, isBlank c = true) : ink t = [] := by
  rw [ink, List.filter_eq_nil_iff]
  intro c hc
  simp [h c hc]

/-- A text of blanks leaves no ink. -/
theorem ink_of_isAllBlank {t : Text} (h : isAllBlank t = true) : ink t = [] :=
  ink_of_blank (List.all_eq_true.mp h)

/-! ## Ink and words -/

/-- The ink of a text is the ink of its words. -/
theorem ink_eq_flatten_words (t : Text) : ink t = (words t).flatten := by
  induction t with
  | nil => rfl
  | cons c t ih =>
    cases hc : isBlank c with
    | true => rw [ink_cons_blank hc, words_cons_blank hc, ih]
    | false =>
      rw [ink_cons_solid hc, ih]
      by_cases hstart : StartsSolid t
      · obtain ⟨first, others, hwords, hcons⟩ := words_cons_onto hc hstart
        rw [hwords, hcons]
        rfl
      · rw [words_cons_apart hc hstart]
        rfl

/-- Texts with the same words have the same ink. -/
theorem ink_congr {t u : Text} (h : words t = words u) : ink t = ink u := by
  rw [ink_eq_flatten_words, h, ink_eq_flatten_words]

theorem ink_trim (t : Text) : ink (trim t) = ink t := ink_congr (words_trim t)

theorem ink_trimRight (t : Text) : ink (trimRight t) = ink t := by
  obtain ⟨after, ht, hafter⟩ := exists_append_trimRight t
  calc ink (trimRight t) = ink (trimRight t ++ after) := by
        rw [ink_append, ink_of_blank hafter, List.append_nil]
    _ = ink t := by rw [← ht]

theorem ink_squeeze (t : Text) : ink (squeeze t) = ink t := ink_congr (words_squeeze t)

theorem ink_flatten (t : Text) : ink (flatten t) = ink t := ink_congr (words_flatten t)

/-! ## Ink and lines -/

theorem ink_flatten_cons (t : Text) (ls : List Text) :
    ink (t :: ls).flatten = ink t ++ ink ls.flatten := by
  rw [List.flatten_cons, ink_append]

/-- The lines of a text have its ink. -/
theorem ink_lines (t : Text) : ink (lines t).flatten = ink t := by
  fun_induction lines t with
  | case1 => rfl
  | case2 rest ih =>
    rw [ink_cons_blank (by decide), ink_cons_blank (by decide)]
    exact ih
  | case3 c rest _ hc ih =>
    rw [ink_cons_blank (isBlank_of_isBreak hc)]
    exact ih
  | case4 c rest _ hc ih =>
    rw [ink_cons, ← ih]
    cases lines rest with
    | nil => exact ink_cons c []
    | cons line others => exact ink_cons c (line ++ others.flatten)

theorem ink_unlines (ls : List Text) : ink (unlines ls) = ink ls.flatten := by
  induction ls with
  | nil => rfl
  | cons line ls ih =>
    cases ls with
    | nil => simp [unlines]
    | cons next ls =>
      rw [unlines_cons_cons, ink_append, ink_cons_blank (by decide), ih, ink_flatten_cons line]

/-- Blank lines can be left out. -/
theorem ink_filter_not_isAllBlank (ls : List Text) :
    ink (ls.filter fun line => !isAllBlank line).flatten = ink ls.flatten := by
  induction ls with
  | nil => rfl
  | cons line ls ih =>
    rw [ink_flatten_cons, List.filter_cons]
    cases h : isAllBlank line with
    | true => simpa [ink_of_isAllBlank h] using ih
    | false => simpa using ih

/-! ## Ink within ink -/

/-- All that is seen of one text is seen in another one, in the same order. -/
def InkWithin (t u : Text) : Prop := (ink t).Sublist (ink u)

theorem InkWithin.of_eq {t u : Text} (h : ink t = ink u) : InkWithin t u := by
  rw [InkWithin, h]

theorem InkWithin.refl (t : Text) : InkWithin t t := List.Sublist.refl _

theorem InkWithin.trans {t u v : Text} (h : InkWithin t u) (h' : InkWithin u v) : InkWithin t v :=
  List.Sublist.trans h h'

theorem InkWithin.nil (t : Text) : InkWithin [] t := List.nil_sublist _

theorem InkWithin.append {t u v w : Text} (h : InkWithin t u) (h' : InkWithin v w) :
    InkWithin (t ++ v) (u ++ w) := by
  rw [InkWithin, ink_append, ink_append]
  exact List.Sublist.append h h'

/-- What is set before and after a text takes nothing from it. -/
theorem inkWithin_between (before t after : Text) : InkWithin t (before ++ t ++ after) := by
  rw [InkWithin, ink_append, ink_append]
  exact (List.sublist_append_right _ _).trans (List.sublist_append_left _ _)

theorem inkWithin_append_left (before t : Text) : InkWithin t (before ++ t) := by
  rw [InkWithin, ink_append]
  exact List.sublist_append_right _ _

/-- Each piece is within the pieces one after another. -/
theorem inkWithin_of_mem {t : Text} {ls : List Text} (h : t ∈ ls) : InkWithin t ls.flatten := by
  obtain ⟨before, after, rfl⟩ := List.append_of_mem h
  rw [List.flatten_append, List.flatten_cons, ← List.append_assoc]
  exact inkWithin_between _ _ _

/-- Pieces that are each set without loss are set so together. -/
theorem InkWithin.flatten_map {f : Text → Text} {ls : List Text}
    (h : ∀ l ∈ ls, InkWithin l (f l)) : InkWithin ls.flatten (ls.map f).flatten := by
  induction ls with
  | nil => exact .refl _
  | cons l ls ih =>
    obtain ⟨hl, hls⟩ := List.forall_mem_cons.mp h
    exact hl.append (ih hls)

/-- A character that is replaced by a text with itself in it is not lost. -/
theorem inkWithin_replace {old : Char} {new : Text} (h : old ∈ new) (t : Text) :
    InkWithin t (replace old new t) := by
  induction t with
  | nil => exact .refl _
  | cons c t ih =>
    by_cases hc : c = old
    · subst hc
      rw [replace_cons_self]
      refine InkWithin.append (t := [c]) ?_ ih
      exact (List.singleton_sublist.mpr h).filter _
    · rw [replace_cons_of_ne hc]
      exact InkWithin.append (.refl [c]) ih

end PageMarkdown.Text
