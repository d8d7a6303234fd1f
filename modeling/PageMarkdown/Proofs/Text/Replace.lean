import Mathlib.Data.List.Basic
import PageMarkdown.Text

/-!
# Replacing one character

A replacement goes through a text character by character, so it is the same in
front of any rest. What it writes is the new text, in place of the old character,
and every other character of the text as it was.
-/

namespace PageMarkdown.Text

variable {old : Char}

@[simp] theorem replace_nil (old : Char) (new : Text) : replace old new [] = [] := rfl

theorem replace_append (old : Char) (new t u : Text) :
    replace old new (t ++ u) = replace old new t ++ replace old new u := List.flatMap_append

/-- The old character is written as the new text. -/
theorem replace_cons_self (old : Char) (new t : Text) :
    replace old new (old :: t) = new ++ replace old new t := by
  rw [replace, List.flatMap_cons, if_pos rfl]
  rfl

/-- Any other character is written as it is. -/
theorem replace_cons_of_ne {c : Char} (h : c ≠ old) (new t : Text) :
    replace old new (c :: t) = c :: replace old new t := by
  rw [replace, List.flatMap_cons, if_neg h]
  rfl

/-- A character is written for the old one, or it is another one of the text. -/
theorem mem_replace {new t : Text} {c : Char} :
    c ∈ replace old new t ↔ (c ∈ new ∧ old ∈ t) ∨ (c ≠ old ∧ c ∈ t) := by
  induction t with
  | nil => simp
  | cons d t ih =>
    by_cases hd : d = old
    · subst hd
      rw [replace_cons_self, List.mem_append, ih, List.mem_cons, List.mem_cons]
      tauto
    · rw [replace_cons_of_ne hd, List.mem_cons, ih, List.mem_cons, List.mem_cons]
      constructor
      · rintro (rfl | ⟨hnew, hold⟩ | ⟨hc, ht⟩)
        · exact .inr ⟨hd, .inl rfl⟩
        · exact .inl ⟨hnew, .inr hold⟩
        · exact .inr ⟨hc, .inr ht⟩
      · rintro (⟨hnew, rfl | hold⟩ | ⟨hc, rfl | ht⟩)
        · exact absurd rfl hd
        · exact .inr (.inl ⟨hnew, hold⟩)
        · exact .inl rfl
        · exact .inr (.inr ⟨hc, ht⟩)

/-- A character that the new text does not bring is in the result when it is another one of the
text. -/
theorem mem_replace_of_not_mem {new t : Text} {c : Char} (h : c ∉ new) :
    c ∈ replace old new t ↔ c ≠ old ∧ c ∈ t := by
  rw [mem_replace, or_iff_right fun hnew => h hnew.1]

/-- Nothing is replaced in a text without the character that is to be. -/
theorem replace_of_not_mem {t : Text} (h : old ∉ t) (new : Text) : replace old new t = t := by
  induction t with
  | nil => rfl
  | cons c t ih =>
    rw [List.mem_cons, not_or] at h
    rw [replace_cons_of_ne (Ne.symm h.1), ih h.2]

end PageMarkdown.Text
