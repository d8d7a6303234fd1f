import Mathlib.Data.Nat.Digits.Defs
import PageMarkdown.Numeral.Integer
import PageMarkdown.Proofs.Text.Blank

/-!
# Reading a numeral

A decimal numeral is a row of digits behind an optional sign, with blanks around
it. Reading one gives the number that its digits stand for, unless there are more
of them than the limit, leading zeros included, or a blank at its ends is one of
the separators that a reader of numbers does not skip.
-/

namespace PageMarkdown

/-- A digit of any script is no blank: the runs of ten digits lie between the ranges of the
blanks. -/
theorem DecimalDigit.value?_of_isBlank {c : Char} (h : Text.isBlank c = true) :
    value? c = none := by
  have hgaps : ∀ z ∈ zeros, (0x20 < z ∧ z + 9 < 0x85) ∨ (0xA0 < z ∧ z + 9 < 0x1680) ∨
      (0x1680 < z ∧ z + 9 < 0x2000) ∨ 0x3000 < z := by decide
  have hnone : (zeros.find? fun z => z ≤ c.toNat && c.toNat ≤ z + 9) = none := by
    refine List.find?_eq_none.mpr fun z hz => ?_
    have hgap := hgaps z hz
    simp only [Text.isBlank, Bool.or_eq_true, Bool.and_eq_true, decide_eq_true_eq,
      beq_iff_eq] at h
    simp only [Bool.and_eq_true, decide_eq_true_eq]
    omega
  rw [value?, hnone, Option.map_none]

theorem DecimalDigit.isBlank_of_isDigit {c : Char} (h : isDigit c = true) :
    Text.isBlank c = false := by
  by_contra hb
  rw [isDigit, value?_of_isBlank (Bool.of_not_eq_false hb)] at h
  cases h

namespace Numeral

open Text

/-! ## Spellings -/

/-- What may stand in front of the digits of a numeral. -/
inductive Sign where
  /-- No sign. -/
  | none
  /-- A plus sign. -/
  | plus
  /-- A minus sign. -/
  | minus
  deriving DecidableEq

/-- A sign as it is written. -/
def Sign.text : Sign → Text
  | none => []
  | plus => ['+']
  | minus => ['-']

/-- What a sign makes of a number. -/
def Sign.applyTo (n : Nat) : Sign → Int
  | minus => -n
  | _ => n

/-- A decimal numeral as it is spelled: an optional sign and decimal digits of any script, with
leading zeros if there are any, between blanks. -/
structure Spelling where
  /-- The blanks in front of it. -/
  before : Text
  /-- Its sign. -/
  sign : Sign
  /-- Its digits. -/
  digits : Text
  /-- The blanks behind it. -/
  after : Text
  isBlank_before : ∀ c ∈ before, isBlank c = true
  isBlank_after : ∀ c ∈ after, isBlank c = true
  digits_ne_nil : digits ≠ []
  isDigit_digits : ∀ c ∈ digits, DecimalDigit.isDigit c = true

/-- What a decimal digit stands for. -/
def digitOf (c : Char) : Nat := (DecimalDigit.value? c).getD 0

namespace Spelling

variable (s : Spelling)

/-- The sign and the digits. -/
def core : Text := s.sign.text ++ s.digits

/-- The numeral as a text. -/
def text : Text := s.before ++ s.core ++ s.after

/-- The integer that the numeral stands for. -/
def value : Int := s.sign.applyTo (Nat.ofDigits 10 (s.digits.reverse.map digitOf))

/-- The numeral has no more digits than can be read. -/
def IsShort : Prop := s.digits.length ≤ digitLimit

/-- The blanks around the numeral are ones that a reader of numbers skips. -/
def IsPadded : Prop := ∀ c ∈ s.before ++ s.after, isPadding c = true

instance : Decidable s.IsShort := inferInstanceAs (Decidable (_ ≤ _))

instance : Decidable s.IsPadded := List.decidableBAll _ _

theorem isBlank_of_mem_nil : ∀ c ∈ ([] : Text), isBlank c = true := by simp

/-- The numeral without the blanks around it. -/
def bare : Spelling := { s with
  before := []
  after := []
  isBlank_before := isBlank_of_mem_nil
  isBlank_after := isBlank_of_mem_nil }

theorem isPadded_bare : s.bare.IsPadded := by simp [IsPadded, bare]

/-- The sign and the digits have content up to both of their ends. -/
theorem isSolid_core : IsSolid s.core := by
  have hdigits : ∀ c ∈ s.digits, isBlank c = false :=
    fun c hc => DecimalDigit.isBlank_of_isDigit (s.isDigit_digits c hc)
  have hlast := List.getLast?_eq_some_getLast s.digits_ne_nil
  refine ⟨?_, EndsSolid.append ⟨_, hlast, hdigits _ (List.getLast_mem _)⟩ _⟩
  rw [core]
  cases s.sign with
  | none =>
    have hhead := List.head?_eq_some_head s.digits_ne_nil
    exact ⟨_, hhead, hdigits _ (List.head_mem _)⟩
  | plus => exact startsSolid_cons (by decide) _
  | minus => exact startsSolid_cons (by decide) _

/-- Trimming takes the blanks around a numeral away. -/
theorem trim_text : trim s.text = s.bare.text := by
  rw [text, s.isSolid_core.isTrimmed.trim_append s.isBlank_before s.isBlank_after]
  exact (List.append_nil _).symm

end Spelling

/-! ## Padding -/

/-- Padding is blank. -/
theorem isBlank_of_isPadding {c : Char} (h : isPadding c = true) : isBlank c = true :=
  (Bool.and_eq_true_iff.mp h).1

/-- Padding around a text with content up to its ends is taken away, and no more. -/
theorem unpad_append {before t after : Text} (h : IsSolid t)
    (hbefore : ∀ c ∈ before, isPadding c = true) (hafter : ∀ c ∈ after, isPadding c = true) :
    unpad (before ++ t ++ after) = t := by
  have hkeep : ∀ {u : Text}, StartsSolid u → u.dropWhile isPadding = u := by
    rintro (_ | ⟨c, u⟩) ⟨d, hd, hsolid⟩
    · cases hd
    · obtain rfl : c = d := Option.some.inj hd
      refine List.dropWhile_cons_of_neg fun hpad => ?_
      rw [isBlank_of_isPadding hpad] at hsolid
      cases hsolid
  obtain ⟨c, hc, hlast⟩ := h.ends
  have hback : StartsSolid t.reverse := ⟨c, by rw [List.head?_reverse, hc], hlast⟩
  rw [unpad, List.append_assoc, List.dropWhile_append_of_pos hbefore,
    hkeep (h.starts.append after), List.reverse_append,
    List.dropWhile_append_of_pos (by simpa using hafter), hkeep hback, List.reverse_reverse]

/-- What is no padding is never taken away. -/
theorem mem_unpad {t : Text} {c : Char} (hc : c ∈ t) (h : isPadding c = false) : c ∈ unpad t := by
  have hkeep : ∀ {u : Text}, c ∈ u → c ∈ u.dropWhile isPadding := by
    intro u hu
    rw [← List.takeWhile_append_dropWhile (p := isPadding) (l := u)] at hu
    refine (List.mem_append.mp hu).resolve_left fun hpad => ?_
    rw [List.mem_takeWhile_imp hpad] at h
    cases h
  rw [unpad, List.mem_reverse]
  exact hkeep (List.mem_reverse.mpr (hkeep hc))

/-! ## Digits -/

/-- Digits alone are read one by one. -/
theorem digitValues?_digits {digits : Text} (h : ∀ c ∈ digits, DecimalDigit.isDigit c = true)
    (afterDigit : Bool) (hstart : afterDigit = true ∨ digits ≠ []) :
    digitValues? afterDigit digits = some (digits.map digitOf) := by
  induction digits generalizing afterDigit with
  | nil =>
    obtain rfl := hstart.resolve_right (fun hne => hne rfl)
    rfl
  | cons c digits ih =>
    obtain ⟨hc, hdigits⟩ := List.forall_mem_cons.mp h
    obtain ⟨d, hd⟩ := Option.isSome_iff_exists.mp hc
    have hunderscore : c ≠ '_' := by
      rintro rfl
      cases hc
    rw [digitValues?, if_neg hunderscore, hd]
    simp [ih hdigits true (.inl rfl), digitOf, hd]

/-- Nothing is read where a blank stands among digits. -/
theorem digitValues?_of_blank {t : Text} {c : Char} (hc : c ∈ t) (h : isBlank c = true)
    (afterDigit : Bool) : digitValues? afterDigit t = none := by
  induction t generalizing afterDigit with
  | nil => cases hc
  | cons d t ih =>
    rw [digitValues?]
    rcases List.mem_cons.mp hc with rfl | hc
    · have hunderscore : c ≠ '_' := by
        rintro rfl
        cases h
      rw [if_neg hunderscore, DecimalDigit.value?_of_isBlank h]
    · split
      · split
        · exact ih hc false
        · rfl
      · cases DecimalDigit.value? d with
        | none => rfl
        | some n => simp [ih hc true]

/-- Reading digits from the left gives the number that they stand for. -/
theorem foldl_eq_ofDigits (ds : List Nat) :
    ds.foldl (fun n d => 10 * n + d) 0 = Nat.ofDigits 10 ds.reverse := by
  rw [Nat.ofDigits_eq_foldr, List.foldr_reverse]
  simp only [Nat.cast_id, add_comm]

/-! ## Reading -/

/-- A text that begins with no sign is taken as it is. -/
theorem takeSign_of_isDigit {c : Char} (h : DecimalDigit.isDigit c = true) (t : Text) :
    takeSign (c :: t) = (false, c :: t) := by
  unfold takeSign
  split
  · rename_i heq
    obtain ⟨rfl, rfl⟩ := List.cons.inj heq
    cases h
  · rename_i heq
    obtain ⟨rfl, rfl⟩ := List.cons.inj heq
    cases h
  · rfl

/-- The sign of a numeral is told from its digits. -/
theorem takeSign_core (s : Spelling) :
    takeSign s.core = (decide (s.sign = .minus), s.digits) := by
  obtain ⟨before, sign, digits, after, -, -, hne, hdigits⟩ := s
  cases sign with
  | none =>
    obtain ⟨c, rest, rfl⟩ := List.exists_cons_of_ne_nil hne
    exact takeSign_of_isDigit (hdigits c List.mem_cons_self) rest
  | plus => rfl
  | minus => rfl

/-- A blank stays behind the sign. -/
theorem mem_takeSign_of_blank {t : Text} {c : Char} (hc : c ∈ t) (h : isBlank c = true) :
    c ∈ (takeSign t).2 := by
  unfold takeSign
  split
  · refine (List.mem_cons.mp hc).resolve_left ?_
    rintro rfl
    cases h
  · refine (List.mem_cons.mp hc).resolve_left ?_
    rintro rfl
    cases h
  · exact hc

/-- A numeral between skipped blanks is read by its value when it is short. -/
theorem integer?_of_isPadded {s : Spelling} (h : s.IsPadded) :
    integer? s.text = if s.IsShort then some s.value else none := by
  obtain ⟨hbefore, hafter⟩ := List.forall_mem_append.mp h
  have hunpad : unpad s.text = s.core := unpad_append s.isSolid_core hbefore hafter
  have hdigits := digitValues?_digits s.isDigit_digits false (.inr s.digits_ne_nil)
  rw [integer?, hunpad, takeSign_core]
  dsimp only
  rw [hdigits]
  dsimp only
  rw [List.length_map, foldl_eq_ofDigits, ← List.map_reverse]
  by_cases hshort : s.IsShort
  · rw [if_neg (Nat.not_lt.mpr hshort), if_pos hshort, Spelling.value]
    cases s.sign <;> rfl
  · rw [if_pos (Nat.not_le.mp hshort), if_neg hshort]

/-- A numeral is read by its value exactly when it is short and has only blanks around it that are
skipped; otherwise it is not read at all. -/
theorem integer?_text (s : Spelling) :
    integer? s.text = if s.IsShort ∧ s.IsPadded then some s.value else none := by
  by_cases hpadded : s.IsPadded
  · rw [integer?_of_isPadded hpadded]
    exact if_congr (and_iff_left hpadded).symm rfl rfl
  · rw [if_neg fun h => hpadded h.2]
    obtain ⟨c, hc, hpadding⟩ : ∃ c ∈ s.before ++ s.after, isPadding c = false := by
      simpa [Spelling.IsPadded] using hpadded
    have hblank : isBlank c = true :=
      (List.mem_append.mp hc).elim (s.isBlank_before c) (s.isBlank_after c)
    have hmem : c ∈ s.text := by
      rcases List.mem_append.mp hc with hc | hc
      · exact List.mem_append_left _ (List.mem_append_left _ hc)
      · exact List.mem_append_right _ hc
    have hnone := digitValues?_of_blank
      (mem_takeSign_of_blank (mem_unpad hmem hpadding) hblank) hblank false
    rw [integer?]
    dsimp only
    rw [hnone]

end Numeral

end PageMarkdown
