import PageMarkdown.Proofs.Text.Ink

/-!
# The letters of a text

The sequence of ASCII letters is what trimming, squeezing and cutting into lines
leave alone: blanks, line breaks and marks are no letters, so letters are part of
the ink of a text. Two texts are compared by their letters where only the layout
differs.
-/

namespace PageMarkdown.Text

/-- The ASCII letters of a text, in order. -/
def letters (t : Text) : Text := t.filter isLetter

@[simp] theorem letters_nil : letters [] = [] := rfl

@[simp] theorem letters_append (t u : Text) : letters (t ++ u) = letters t ++ letters u :=
  List.filter_append ..

theorem letters_cons (c : Char) (t : Text) :
    letters (c :: t) = if isLetter c then c :: letters t else letters t := List.filter_cons

/-- A character that is no letter does not count. -/
theorem letters_cons_of_not {c : Char} (h : isLetter c = false) (t : Text) :
    letters (c :: t) = letters t := by
  rw [letters_cons, h, if_neg Bool.false_ne_true]

/-- A text has no letters when none of its characters is one. -/
theorem letters_eq_nil {t : Text} (h : ∀ c ∈ t, isLetter c = false) : letters t = [] := by
  rw [letters, List.filter_eq_nil_iff]
  intro c hc
  simp [h c hc]

/-- The letters of pieces one after another. -/
theorem letters_flatten_cons (t : Text) (ls : List Text) :
    letters (t :: ls).flatten = letters t ++ letters ls.flatten := by
  rw [List.flatten_cons, letters_append]

/-- Pieces that have the same letters, one by one, have the same letters together. -/
theorem letters_flatten_congr {α : Type} {f g : α → Text} {as : List α}
    (h : ∀ a ∈ as, letters (f a) = letters (g a)) :
    letters (as.map f).flatten = letters (as.map g).flatten := by
  induction as with
  | nil => rfl
  | cons a as ih =>
    obtain ⟨ha, has⟩ := List.forall_mem_cons.mp h
    rw [List.map_cons, List.map_cons, letters_flatten_cons, letters_flatten_cons, ha, ih has]

/-- What changes no letters of a piece changes none of all pieces. -/
theorem letters_flatten_map {f : Text → Text} {ls : List Text}
    (h : ∀ l ∈ ls, letters (f l) = letters l) :
    letters (ls.map f).flatten = letters ls.flatten := by
  rw [letters_flatten_congr (g := id) h, List.map_id]

/-- A letter lies in one of two ranges. -/
theorem toNat_of_isLetter {c : Char} (h : isLetter c = true) :
    (65 ≤ c.toNat ∧ c.toNat ≤ 90) ∨ (97 ≤ c.toNat ∧ c.toNat ≤ 122) := by
  rcases Bool.or_eq_true_iff.mp h with hupper | hlower
  · exact .inl (of_decide_eq_true hupper)
  · obtain ⟨hfirst, hlast⟩ := Bool.and_eq_true_iff.mp hlower
    exact .inr ⟨of_decide_eq_true hfirst, of_decide_eq_true hlast⟩

/-- A digit is no letter. -/
theorem isLetter_of_isDigit {c : Char} (h : c.isDigit = true) : isLetter c = false := by
  have hdigit : 48 ≤ c.toNat ∧ c.toNat ≤ 57 := Char.isDigit_iff_toNat.mp h
  by_contra hc
  have hrange := toNat_of_isLetter (Bool.of_not_eq_false hc)
  omega

/-- A blank is no letter. -/
theorem isLetter_of_isBlank {c : Char} (h : isBlank c = true) : isLetter c = false := by
  simp only [isBlank, Bool.or_eq_true, Bool.and_eq_true, decide_eq_true_eq, beq_iff_eq] at h
  by_contra hc
  have hrange := toNat_of_isLetter (Bool.of_not_eq_false hc)
  omega

/-- Letters are found in the ink of a text. -/
theorem letters_eq_filter_ink (t : Text) : letters t = (ink t).filter isLetter := by
  rw [letters, ink, List.filter_filter]
  refine List.filter_congr fun c _ => ?_
  cases hc : isBlank c with
  | true => simp [isLetter_of_isBlank hc]
  | false => simp

/-- Texts with the same ink have the same letters. -/
theorem letters_congr {t u : Text} (h : ink t = ink u) : letters t = letters u := by
  rw [letters_eq_filter_ink, h, letters_eq_filter_ink]

/-- A text of blanks has no letters. -/
theorem letters_of_isAllBlank {t : Text} (h : isAllBlank t = true) : letters t = [] := by
  rw [letters_eq_filter_ink, ink_of_isAllBlank h, List.filter_nil]

/-- A text of decimal digits has no letters. -/
theorem letters_ofNat (n : Nat) : letters (ofNat n) = [] :=
  letters_eq_nil fun _ hc =>
    isLetter_of_isDigit (Nat.isDigit_of_mem_toDigits (by decide) (by decide) hc)

/-! ## Blanks and lines -/

theorem letters_trimRight (t : Text) : letters (trimRight t) = letters t :=
  letters_congr (ink_trimRight t)

theorem letters_trim (t : Text) : letters (trim t) = letters t := letters_congr (ink_trim t)

theorem letters_squeeze (t : Text) : letters (squeeze t) = letters t :=
  letters_congr (ink_squeeze t)

theorem letters_flatten (t : Text) : letters (flatten t) = letters t :=
  letters_congr (ink_flatten t)

/-- The lines of a text have its letters. -/
theorem letters_lines (t : Text) : letters (lines t).flatten = letters t :=
  letters_congr (ink_lines t)

theorem letters_unlines (ls : List Text) : letters (unlines ls) = letters ls.flatten :=
  letters_congr (ink_unlines ls)

/-- Blank lines can be left out. -/
theorem letters_filter_not_isAllBlank (ls : List Text) :
    letters (ls.filter fun line => !isAllBlank line).flatten = letters ls.flatten :=
  letters_congr (ink_filter_not_isAllBlank ls)

/-! ## Replacing -/

/-- Replacing a character that is no letter by others that are none changes no letters. -/
theorem letters_replace {old : Char} {new : Text} (hold : isLetter old = false)
    (hnew : letters new = []) (t : Text) : letters (replace old new t) = letters t := by
  induction t with
  | nil => rfl
  | cons c t ih =>
    by_cases hc : c = old
    · rw [hc, replace_cons_self, letters_append, ih, hnew, letters_cons_of_not hold,
        List.nil_append]
    · rw [replace_cons_of_ne hc, letters_cons, letters_cons, ih]

end PageMarkdown.Text
