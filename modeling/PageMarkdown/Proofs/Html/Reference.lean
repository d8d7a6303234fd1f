import Mathlib.Data.List.TakeWhile
import PageMarkdown.Html.Reference

/-!
# Resolving references

Text in front of the first ampersand is kept. A reference never takes the next
ampersand, so that each ampersand is looked at: resolving is refused exactly when
some ampersand and number sign are followed by too many decimal digits.
-/

namespace PageMarkdown.Html.Reference

open Text Numeral

/-- Text without ampersands in front of a text is kept. -/
theorem resolveFrom_append {front : Text} (h : '&' ∉ front) (t : Text) :
    resolveFrom 0 (front ++ t) = (resolveFrom 0 t).map (front ++ ·) := by
  induction front with
  | nil => rw [List.nil_append]; cases resolveFrom 0 t <;> rfl
  | cons c front ih =>
    obtain ⟨hc, hfront⟩ := not_or.mp (mt List.mem_cons.mpr h)
    rw [List.cons_append, resolveFrom, if_neg (Ne.symm hc), ih hfront]
    cases resolveFrom 0 t <;> rfl

/-! ## Numerals that are too long -/

/-- The text holds a decimal reference with this many digits, more than are read. -/
def HoldsLong (t : Text) (n : TooLong) : Prop :=
  ∃ before digits after, t = before ++ '&' :: '#' :: (digits ++ after) ∧
    (∀ c ∈ digits, c.isDigit = true) ∧ digits.length = n.digits ∧ digitLimit < n.digits

/-- What a piece of a text holds, the text holds. -/
theorem HoldsLong.of_piece {s t : Text} {n : TooLong} (h : HoldsLong s n) (hst : s <:+: t) :
    HoldsLong t n := by
  obtain ⟨before, digits, after, rfl, hdigits, hlength, hlong⟩ := h
  obtain ⟨front, back, rfl⟩ := hst
  exact ⟨front ++ before, digits, after ++ back, by simp, hdigits, hlength, hlong⟩

/-- A text that holds such a reference has room for it. -/
theorem HoldsLong.length_le {t : Text} {n : TooLong} (h : HoldsLong t n) :
    n.digits + 2 ≤ t.length := by
  obtain ⟨before, digits, after, rfl, -, hlength, -⟩ := h
  simp only [List.length_append, List.length_cons]
  omega

/-- A decimal numeral is refused only for its length. -/
theorem decimal_eq_error {digits : Text} {n : TooLong} (h : decimal digits = .error n) :
    digits.length = n.digits ∧ digitLimit < n.digits := by
  unfold decimal at h
  split at h
  · obtain rfl := Except.error.inj h
    exact ⟨rfl, ‹_›⟩
  · cases h

/-- Digits behind an ampersand and a number sign that are refused are held. -/
theorem holdsLong_of_decimal {t : Text} {n : TooLong}
    (h : decimal (t.takeWhile Char.isDigit) = .error n) : HoldsLong ('&' :: '#' :: t) n := by
  obtain ⟨hlength, hlong⟩ := decimal_eq_error h
  refine ⟨[], t.takeWhile Char.isDigit, t.dropWhile Char.isDigit, ?_, ?_, hlength, hlong⟩
  · rw [List.takeWhile_append_dropWhile, List.nil_append]
  · exact fun c hc => List.mem_takeWhile_imp hc

theorem resolve?_eq_error {t : Text} {n : TooLong} (h : resolve? t = .error n) :
    HoldsLong ('&' :: t) n := by
  unfold resolve? at h
  split at h
  · rename_i rest
    dsimp only at h
    split at h
    · split at h
      · split at h <;> cases h
      · cases h
    · cases hd : decimal (rest.takeWhile Char.isDigit) with
      | ok m => simp [hd, Except.map] at h
      | error m =>
        obtain rfl : m = n := by simpa [hd, Except.map] using h
        exact holdsLong_of_decimal hd
  · dsimp only at h
    split at h <;> cases h

/-- Resolving is refused only for a numeral that the text holds. -/
theorem holdsLong_of_resolveFrom {skip : Nat} {t : Text} {n : TooLong}
    (h : resolveFrom skip t = .error n) : HoldsLong t n := by
  induction t generalizing skip with
  | nil => cases skip <;> cases h
  | cons c rest ih =>
    have hbehind : ∀ {k : Nat}, resolveFrom k rest = .error n → HoldsLong (c :: rest) n :=
      fun hk => (ih hk).of_piece (List.suffix_cons c rest).isInfix
    cases skip with
    | succ skip => exact hbehind h
    | zero =>
      have hmapped : ∀ {k : Nat} {f : Text → Text}, (resolveFrom k rest).map f = .error n →
          HoldsLong (c :: rest) n := by
        intro k f hk
        cases hrest : resolveFrom k rest with
        | ok resolved => simp [hrest, Except.map] at hk
        | error m =>
          obtain rfl : m = n := by simpa [hrest, Except.map] using hk
          exact hbehind hrest
      unfold resolveFrom at h
      split at h
      · rename_i hamp
        split at h
        · rename_i m hrefused
          obtain rfl := Except.error.inj h
          rw [hamp]
          exact resolve?_eq_error hrefused
        · exact hmapped h
        · exact hmapped h
      · exact hmapped h

/-! ## Every ampersand is looked at -/

/-- What is taken from the front of a text without ampersands stays in front of the first one. -/
theorem length_takeWhile_append_le {p : Char → Bool} (hp : p '&' = false) (front t : Text) :
    ((front ++ '&' :: t).takeWhile p).length ≤ front.length := by
  induction front with
  | nil => simp [hp]
  | cons c front ih =>
    rw [List.cons_append, List.takeWhile_cons]
    split
    · simpa using ih
    · simp

/-- Something else than an ampersand stands in front of the ampersand. -/
theorem lt_of_head?_drop {front t : Text} {c : Char} {k : Nat} (hc : c ≠ '&')
    (hk : k ≤ front.length) (h : ((front ++ '&' :: t).drop k).head? = some c) :
    k < front.length := by
  refine Nat.lt_of_le_of_ne hk fun heq => hc ?_
  rw [heq, List.drop_left, List.head?_cons] at h
  exact (Option.some.inj h).symm

/-- A semicolon that ends a reference stands in front of the ampersand. -/
theorem closed_le {front t : Text} {k : Nat} (hk : k ≤ front.length) (n : Nat) :
    closed (n + k) ((front ++ '&' :: t).drop k) ≤ n + front.length := by
  unfold closed
  split
  · rename_i rest hrest
    have hlt := lt_of_head?_drop (by decide) hk (congrArg List.head? hrest)
    omega
  · omega

/-- A name takes no more characters than it is looked for in. -/
theorem taken_le_of_longestName? {t text : Text} {length taken : Nat}
    (h : longestName? t length = some (text, taken)) : taken ≤ length := by
  induction length with
  | zero => cases h
  | succ length ih =>
    rw [longestName?] at h
    split at h
    · obtain ⟨rfl, rfl⟩ := Prod.mk.inj (Option.some.inj h)
      exact Nat.le_refl _
    · exact (ih h).trans (Nat.le_succ length)

/-- A numeric reference ends in front of the next ampersand. -/
theorem taken_le_of_numeric {front t text : Text} {taken : Nat}
    (h : resolve? ('#' :: (front ++ '&' :: t)) = .ok (some (text, taken))) :
    taken ≤ 1 + front.length := by
  simp only [resolve?] at h
  split at h
  · cases front with
    | nil => simp at h
    | cons x front =>
      simp only [List.cons_append] at h
      split at h
      · obtain ⟨-, rfl⟩ := Prod.mk.inj (Option.some.inj (Except.ok.inj h))
        have hhex := length_takeWhile_append_le (p := isHexDigit) (by decide) front t
        have hclosed := closed_le hhex 2 (t := t)
        simp only [List.length_cons]
        omega
      · cases h
  · have hdigits := length_takeWhile_append_le (p := Char.isDigit) (by decide) front t
    have hclosed := closed_le hdigits 1 (t := t)
    cases hd : decimal ((front ++ '&' :: t).takeWhile Char.isDigit) with
    | error n => simp [hd, Except.map] at h
    | ok n =>
      rw [hd] at h
      obtain ⟨-, rfl⟩ := Prod.mk.inj (Option.some.inj (Except.ok.inj h))
      exact hclosed

/-- A reference by name ends in front of the next ampersand. -/
theorem taken_le_of_named {front t text : Text} {taken : Nat} (hfront : front.head? ≠ some '#')
    (h : resolve? (front ++ '&' :: t) = .ok (some (text, taken))) : taken ≤ front.length := by
  unfold resolve? at h
  split at h
  · rename_i rest heq
    cases front with
    | nil => simp at heq
    | cons c front => simp_all
  · dsimp only at h
    have hname : (((front ++ '&' :: t).take nameLimit).takeWhile isNameChar).length ≤
        front.length := by
      rw [← List.take_takeWhile]
      exact (List.length_take_le' ..).trans (length_takeWhile_append_le (by decide) front t)
    generalize ((front ++ '&' :: t).take nameLimit).takeWhile isNameChar = name at h hname
    split at h
    · rename_i text' hterminated
      obtain ⟨-, rfl⟩ := Prod.mk.inj (Option.some.inj (Except.ok.inj h))
      have hsemicolon : ((front ++ '&' :: t).drop name.length).head? = some ';' := by
        by_contra hopen
        rw [if_neg (by simpa using hopen)] at hterminated
        cases hterminated
      exact lt_of_head?_drop (by decide) hname hsemicolon
    · exact (taken_le_of_longestName? (Except.ok.inj h)).trans hname

/-- A reference ends in front of the next ampersand. -/
theorem taken_le_of_resolve? {front t text : Text} {taken : Nat}
    (h : resolve? (front ++ '&' :: t) = .ok (some (text, taken))) : taken ≤ front.length := by
  by_cases hsign : front.head? = some '#'
  · obtain ⟨rest, rfl⟩ := List.head?_eq_some_iff.mp hsign
    have htaken := taken_le_of_numeric h
    simp only [List.length_cons]
    omega
  · exact taken_le_of_named hsign h

/-- The digits behind an ampersand and a number sign are refused when there are too many. -/
theorem resolve?_long {digits : Text} (hdigits : ∀ c ∈ digits, c.isDigit = true)
    (hlong : digitLimit < digits.length) (after : Text) :
    ∃ m, resolve? ('#' :: (digits ++ after)) = .error m := by
  have hrun : digitLimit < ((digits ++ after).takeWhile Char.isDigit).length := by
    rw [List.takeWhile_append_of_pos hdigits, List.length_append]
    omega
  have hfilled : ((digits ++ after).takeWhile Char.isDigit).isEmpty = false := by
    rw [List.isEmpty_eq_false_iff_exists_mem]
    exact List.exists_mem_of_length_pos (Nat.zero_lt_of_lt hrun)
  simp only [resolve?, hfilled, Bool.false_eq_true, if_false, decimal, if_pos hrun, Except.map]
  exact ⟨_, rfl⟩

/-- A numeral that is too long is refused, whatever stands before it and however much of that has
been consumed already. -/
theorem exists_refused {digits : Text} (hdigits : ∀ c ∈ digits, c.isDigit = true)
    (hlong : digitLimit < digits.length) (after before : Text) {skip : Nat}
    (hskip : skip ≤ before.length) :
    ∃ m, resolveFrom skip (before ++ '&' :: '#' :: (digits ++ after)) = .error m := by
  induction before generalizing skip with
  | nil =>
    obtain rfl : skip = 0 := Nat.le_zero.mp hskip
    obtain ⟨m, hm⟩ := resolve?_long hdigits hlong after
    exact ⟨m, by rw [List.nil_append, resolveFrom, if_pos rfl, hm]⟩
  | cons c before ih =>
    cases skip with
    | succ skip => exact ih (Nat.le_of_succ_le_succ hskip)
    | zero =>
      rw [List.cons_append, resolveFrom]
      split
      · split
        · exact ⟨_, rfl⟩
        · obtain ⟨m, hm⟩ := ih (Nat.zero_le _)
          exact ⟨m, by rw [hm]; rfl⟩
        · rename_i text taken hresolved
          obtain ⟨m, hm⟩ := ih (taken_le_of_resolve? hresolved)
          exact ⟨m, by rw [hm]; rfl⟩
      · obtain ⟨m, hm⟩ := ih (Nat.zero_le _)
        exact ⟨m, by rw [hm]; rfl⟩

/-- The numeral that a text is refused for, if it is. -/
def refusal? (t : Text) : Option TooLong :=
  match resolveAll t with
  | .ok _ => none
  | .error n => some n

/-- A refused text holds the numeral that it is refused for. -/
theorem holdsLong_of_refusal? {t : Text} {n : TooLong} (h : refusal? t = some n) :
    HoldsLong t n := by
  unfold refusal? at h
  split at h
  · cases h
  · rename_i m hm
    obtain rfl := Option.some.inj h
    exact holdsLong_of_resolveFrom hm

/-- A text is resolved exactly when it holds no numeral that is too long. -/
theorem refusal?_eq_none_iff (t : Text) : refusal? t = none ↔ ∀ n, ¬ HoldsLong t n := by
  constructor
  · rintro h n ⟨before, digits, after, rfl, hdigits, hlength, hlong⟩
    obtain ⟨m, hm⟩ := exists_refused hdigits (hlength ▸ hlong) after before (Nat.zero_le _)
    rw [refusal?, resolveAll, hm] at h
    cases h
  · intro h
    cases hrefused : refusal? t with
    | none => rfl
    | some n => exact absurd (holdsLong_of_refusal? hrefused) (h n)

end PageMarkdown.Html.Reference
