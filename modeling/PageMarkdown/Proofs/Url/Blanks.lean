import PageMarkdown.Proofs.Text.Lines
import PageMarkdown.Proofs.Text.Replace
import PageMarkdown.Proofs.Url.Safe

/-!
# Blanks in sanitized URLs

Of the blanks in a URL, those of ASCII are escaped or dropped, and those beyond it
stay, unless they are trimmed. Trimming comes before dropping, so a blank may come
to stand at an end of a sanitized URL. A URL without such an end is sanitized for
good, and any other one is after a second pass.
-/

namespace PageMarkdown.Url

open Text

/-- A blank may stay in a URL when it is beyond ASCII. -/
theorem isAllowed_iff_of_isBlank {c : Char} (h : isBlank c = true) :
    isAllowed c = true ↔ 0x80 ≤ c.toNat := by
  constructor
  · intro hallowed
    have hlow := (of_isAllowed hallowed).1
    simp only [isBlank, Bool.or_eq_true, Bool.and_eq_true, decide_eq_true_eq, beq_iff_eq] at h
    omega
  · intro hhigh
    rw [isAllowed, decide_eq_true hhigh, Bool.or_true]

/-- The blanks that are left of a URL are those of it that are beyond ASCII. -/
theorem mem_clean_iff_of_isBlank {raw : Text} {c : Char} (h : isBlank c = true) :
    c ∈ clean raw ↔ c ∈ trim raw ∧ 0x80 ≤ c.toNat := by
  rw [clean, List.mem_filter, isAllowed_iff_of_isBlank h]
  refine and_congr_left fun hhigh => ?_
  have hascii : ∀ d ∈ [' ', '%', '2', '0'], d.toNat < 0x80 := by simp
  have hother : c ∉ [' ', '%', '2', '0'] := fun hmem => absurd (hascii c hmem) (by omega)
  rw [List.mem_cons, not_or] at hother
  rw [mem_replace_of_not_mem hother.2, and_iff_right hother.1]

/-- A URL of permitted characters only is cleaned by trimming it. -/
theorem clean_of_isAllowed {t : Text} (h : ∀ c ∈ t, isAllowed c = true) : clean t = trim t := by
  have htrim : ∀ c ∈ trim t, isAllowed c = true := fun c hc => h c ((infix_trim t).subset hc)
  have hspace : ' ' ∉ trim t := fun hmem => absurd (htrim ' ' hmem) (by decide)
  rw [clean, replace_of_not_mem hspace, List.filter_eq_self.mpr htrim]

/-- What is left of a URL is decided by what is left when it is cleaned. -/
theorem sanitize_congr {raw other : Text} (h : clean raw = clean other) :
    sanitize raw = sanitize other := by
  rw [sanitize, sanitize, h]

/-- A sanitized URL is the cleaned one or nothing. -/
theorem sanitize_eq_nil_or_clean (raw : Text) : sanitize raw = [] ∨ sanitize raw = clean raw := by
  cases h : sanitize raw with
  | nil => exact .inl rfl
  | cons c rest => exact .inr (of_sanitize_eq_cons h).1.symm

theorem clean_sanitize (raw : Text) : clean (sanitize raw) = trim (sanitize raw) :=
  clean_of_isAllowed fun _ hc => isAllowed_of_mem_sanitize hc

/-- A sanitized URL has no blank of some kind when it is nothing, or the trimmed URL has none beyond
ASCII. -/
theorem sanitize_free_iff (raw : Text) {p : Char → Bool}
    (hp : ∀ c, p c = true → isBlank c = true) :
    (∀ c ∈ sanitize raw, p c = false) ↔
      sanitize raw = [] ∨ ∀ c ∈ trim raw, p c = true → c.toNat < 0x80 := by
  rcases sanitize_eq_nil_or_clean raw with hnil | hclean
  · simp [hnil]
  · constructor
    · intro hfree
      refine .inr fun c hc hpc => ?_
      by_contra hhigh
      have hmem := (mem_clean_iff_of_isBlank (hp c hpc)).mpr ⟨hc, by omega⟩
      rw [hfree c (hclean ▸ hmem)] at hpc
      cases hpc
    · rintro (hnil | hascii) c hc
      · rw [hnil] at hc
        cases hc
      · by_contra hpc
        have hpc := Bool.of_not_eq_false hpc
        obtain ⟨hmem, hhigh⟩ := (mem_clean_iff_of_isBlank (hp c hpc)).mp (hclean ▸ hc)
        exact absurd (hascii c hmem hpc) (by omega)

/-- Sanitizing again changes nothing exactly when the URL neither begins nor ends with a blank. -/
theorem sanitize_sanitize_iff (raw : Text) :
    sanitize (sanitize raw) = sanitize raw ↔ IsTrimmed (sanitize raw) := by
  constructor
  · intro h
    rcases sanitize_eq_nil_or_clean (sanitize raw) with hnil | hclean
    · rw [← h, hnil]
      exact isTrimmed_nil
    · rw [← h, hclean, clean_sanitize]
      exact isTrimmed_trim _
  · intro h
    rcases sanitize_eq_nil_or_clean raw with hnil | hclean
    · rw [hnil]
      rfl
    · exact sanitize_congr (by rw [clean_sanitize, h.trim_eq, hclean])

/-- What is sanitized twice is trimmed. -/
theorem isTrimmed_sanitize_sanitize (raw : Text) : IsTrimmed (sanitize (sanitize raw)) := by
  rcases sanitize_eq_nil_or_clean (sanitize raw) with hnil | hclean
  · rw [hnil]
    exact isTrimmed_nil
  · rw [hclean, clean_sanitize]
    exact isTrimmed_trim _

/-- A sanitized URL has blanks, and line breaks among them, exactly when it is not empty and the
trimmed URL has some beyond ASCII. Sanitizing it again changes nothing exactly when none of them
stands at an end of it, as is so when it has none, and sanitizing it twice more never does. -/
theorem sanitize_stable_iff (raw : Text) :
    ((∀ c ∈ sanitize raw, isBlank c = false) ↔
      sanitize raw = [] ∨ ∀ c ∈ trim raw, isBlank c = true → c.toNat < 0x80) ∧
    ((∀ c ∈ sanitize raw, isBreak c = false) ↔
      sanitize raw = [] ∨ ∀ c ∈ trim raw, isBreak c = true → c.toNat < 0x80) ∧
    (sanitize (sanitize raw) = sanitize raw ↔ IsTrimmed (sanitize raw)) ∧
    ((∀ c ∈ sanitize raw, isBlank c = false) → sanitize (sanitize raw) = sanitize raw) ∧
    sanitize (sanitize (sanitize raw)) = sanitize (sanitize raw) := by
  refine ⟨sanitize_free_iff raw fun _ => id, sanitize_free_iff raw fun _ => isBlank_of_isBreak,
    sanitize_sanitize_iff raw, fun hsolid => ?_, ?_⟩
  · refine (sanitize_sanitize_iff raw).mpr ⟨fun c hc => ?_, fun c hc => ?_⟩
    · exact hsolid c (List.mem_of_head? hc)
    · exact hsolid c (List.mem_of_getLast? hc)
  · exact (sanitize_sanitize_iff (sanitize raw)).mpr (isTrimmed_sanitize_sanitize raw)

/-- A control in front of a separator keeps it from being trimmed, and is dropped then: a line break
begins the URL, and is trimmed only when the URL is sanitized again. -/
theorem sanitize_leaves_separator :
    let raw := "\x01\u2028/a".toList
    sanitize raw = "\u2028/a".toList ∧ isBlank '\u2028' = true ∧ isBreak '\u2028' = true ∧
      sanitize (sanitize raw) = "/a".toList ∧ "/a".toList ≠ sanitize raw := by
  decide +kernel

end PageMarkdown.Url
