import Mathlib
import PageMarkdown.Text.Lowercase

/-!
# Lower case is settled

No run of the table lowers to a character that a run covers, so what is in lower
case stays as it is when it is lowered again.
-/

namespace PageMarkdown.LetterCase

namespace Run

/-- What a character of the run is lowered to. -/
def image (r : Run) (c : Nat) : Nat := ((c : Int) + r.shift).toNat

/-- The run lowers to characters, none of which is the dotted capital I. -/
def isSound (r : Run) : Bool :=
  0 ≤ (r.first : Int) + r.shift &&
    (r.image r.last < 0x130 || 0x130 < r.image r.first && r.image r.last < 0xD800 ||
      0xDFFF < r.image r.first && r.image r.last < 0x110000)

/-- No character that the run lowers to is covered by the other one: all of them are before it or
behind it, or they alternate. -/
def misses (r other : Run) : Bool :=
  r.image r.last < other.first || other.last < r.image r.first ||
    other.stride == 2 && (r.stride == 2 || r.first == r.last) &&
      (r.image r.first + other.first) % 2 == 1

/-- The first and the last character of a run bound what it lowers to. -/
theorem image_bounds {r : Run} {c : Nat} (h : r.covers c = true) :
    r.image r.first ≤ r.image c ∧ r.image c ≤ r.image r.last := by
  simp only [covers, Bool.and_eq_true, decide_eq_true_eq] at h
  simp only [image]
  omega

theorem covers_image_of_misses {r other : Run} (hsound : r.isSound = true)
    (hmisses : r.misses other = true) {c : Nat} (h : r.covers c = true) :
    other.covers (r.image c) = false := by
  have hbounds := image_bounds h
  by_contra hcovered
  simp only [covers, misses, isSound, Bool.and_eq_true, Bool.or_eq_true, decide_eq_true_eq,
    beq_iff_eq, Bool.not_eq_false] at h hcovered hmisses hsound
  rcases hmisses with (hbefore | hbehind) | ⟨⟨htwo, hstride⟩, hparity⟩
  · omega
  · omega
  · -- The run has every second character, as the other one has, but they alternate.
    have heven : (c - r.first) % 2 = 0 := by
      rcases hstride with hstride | hsingle
      · exact hstride ▸ h.2
      · omega
    rw [htwo] at hcovered
    simp only [image] at hcovered hparity
    omega

end Run

theorem runs_sound : (runs.all Run.isSound) = true := by decide +kernel

theorem runs_miss : (runs.all fun r => runs.all r.misses) = true := by decide +kernel

/-- What a run lowers to is covered by no run. -/
theorem find?_covers_image {r : Run} (hr : r ∈ runs) {c : Nat} (h : r.covers c = true) :
    runs.find? (·.covers (r.image c)) = none := by
  refine List.find?_eq_none.mpr fun other hother => ?_
  have hmisses := List.all_eq_true.mp (List.all_eq_true.mp runs_miss r hr) other hother
  simp [Run.covers_image_of_misses (List.all_eq_true.mp runs_sound r hr) hmisses h]

/-- What a run lowers to is a character. -/
theorem image_isValidChar {r : Run} (hr : r ∈ runs) {c : Nat} (h : r.covers c = true) :
    (r.image c).isValidChar := by
  have hsound := List.all_eq_true.mp runs_sound r hr
  have hbounds := Run.image_bounds h
  simp only [Run.isSound, Bool.and_eq_true, Bool.or_eq_true, decide_eq_true_eq] at hsound
  rw [Nat.isValidChar]
  omega

/-- No run lowers to the dotted capital I. -/
theorem image_ne {r : Run} (hr : r ∈ runs) {c : Nat} (h : r.covers c = true) :
    r.image c ≠ 0x130 := by
  have hsound := List.all_eq_true.mp runs_sound r hr
  have hbounds := Run.image_bounds h
  simp only [Run.isSound, Bool.and_eq_true, Bool.or_eq_true, decide_eq_true_eq] at hsound
  omega

end PageMarkdown.LetterCase

namespace PageMarkdown.Text

open LetterCase

/-- A character that stays as it is when a text is lowered. -/
def IsSettled (c : Char) : Prop := c ≠ '\u03A3' ∧ lowerChar c = [c]

/-- The capital letters of ASCII. -/
theorem toNat_of_isUpper {c : Char} (h : c.isUpper = true) : 0x41 ≤ c.toNat ∧ c.toNat ≤ 0x5A := by
  simpa [Char.isUpper, UInt32.le_iff_toNat_le] using h

theorem toNat_toLower_lt {c : Char} (h : c.toNat < 0x80) : c.toLower.toNat < 0x80 := by
  by_cases hupper : c.isUpper = true
  · have hbounds := toNat_of_isUpper hupper
    rw [Char.toLower_eq_of_isUpper hupper, Char.toNat_ofNat]
    split <;> omega
  · rwa [Char.toLower_eq_of_not_isUpper hupper]

/-- Of the characters of ASCII, those in lower case are settled. -/
theorem isSettled_of_ascii {c : Char} (hascii : c.toNat < 0x80) (hlower : c.toLower = c) :
    IsSettled c := by
  refine ⟨?_, by rw [lowerChar, if_pos hascii, hlower]⟩
  rintro rfl
  exact absurd hascii (by decide)

/-- Other than the dotted capital I, what no run covers is settled. -/
theorem isSettled_of_not_covered {c : Char} (hrun : runs.find? (·.covers c.toNat) = none)
    (hdotted : c ≠ '\u0130') : IsSettled c := by
  by_cases hascii : c.toNat < 0x80
  · refine isSettled_of_ascii hascii (Char.toLower_eq_of_not_isUpper fun hupper => ?_)
    have hcapital := List.find?_eq_none.mp hrun ⟨0x41, 0x5A, 1, 32⟩ List.mem_cons_self
    have hbounds := toNat_of_isUpper hupper
    simp [Run.covers, Nat.mod_one, hbounds] at hcapital
  · refine ⟨?_, by rw [lowerChar, if_neg hascii, if_neg hdotted, hrun]⟩
    rintro rfl
    exact absurd hrun (by decide)

/-- A character other than capital sigma is lowered to settled ones. -/
theorem isSettled_of_mem_lowerChar {c d : Char} (hsigma : c ≠ '\u03A3') (h : d ∈ lowerChar c) :
    IsSettled d := by
  rw [lowerChar] at h
  split at h
  · rename_i hascii
    obtain rfl := List.mem_singleton.mp h
    exact isSettled_of_ascii (toNat_toLower_lt hascii) (Char.toLower_toLower_eq_toLower c)
  · split at h
    · rcases List.mem_cons.mp h with rfl | h
      · exact isSettled_of_ascii (by decide) (by decide)
      · obtain rfl := List.mem_singleton.mp h
        exact isSettled_of_not_covered (by decide) (by decide)
    · rename_i hdotted
      split at h
      · rename_i r hfound
        obtain rfl := List.mem_singleton.mp h
        have hr := List.mem_of_find?_eq_some hfound
        have hcovers : r.covers c.toNat = true :=
          List.find?_some (p := fun r : Run => r.covers c.toNat) hfound
        have himage : (Char.ofNat ((c.toNat : Int) + r.shift).toNat).toNat = r.image c.toNat := by
          rw [Char.toNat_ofNat]
          exact if_pos (image_isValidChar hr hcovers)
        refine isSettled_of_not_covered (himage ▸ find?_covers_image hr hcovers) fun heq => ?_
        exact image_ne hr hcovers (himage ▸ congrArg Char.toNat heq)
      · rename_i hrun
        obtain rfl := List.mem_singleton.mp h
        exact isSettled_of_not_covered hrun hdotted

/-- A text in lower case has only settled characters. -/
theorem isSettled_of_mem_lowerFrom {before : Bool} {t : Text} {d : Char}
    (h : d ∈ lowerFrom before t) : IsSettled d := by
  induction t generalizing before with
  | nil => cases h
  | cons c t ih =>
    rw [lowerFrom] at h
    rcases List.mem_append.mp h with h | h
    · split at h
      · obtain rfl := List.mem_singleton.mp h
        split <;> exact isSettled_of_not_covered (by decide) (by decide)
      · rename_i hsigma
        exact isSettled_of_mem_lowerChar hsigma h
    · exact ih h

/-- Settled characters stay as they are. -/
theorem lowerFrom_of_isSettled {t : Text} (h : ∀ c ∈ t, IsSettled c) (before : Bool) :
    lowerFrom before t = t := by
  induction t generalizing before with
  | nil => rfl
  | cons c t ih =>
    obtain ⟨⟨hsigma, hc⟩, ht⟩ := List.forall_mem_cons.mp h
    rw [lowerFrom, if_neg hsigma, hc, ih ht, List.singleton_append]

/-- Lowering a text twice is lowering it once. -/
theorem lower_lower (t : Text) : lower (lower t) = lower t :=
  lowerFrom_of_isSettled (fun _ hc => isSettled_of_mem_lowerFrom hc) false

end PageMarkdown.Text
