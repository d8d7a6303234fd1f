import Mathlib.Data.List.Chain
import Mathlib.Data.List.TakeWhile
import PageMarkdown.Text.Blank

/-!
# Trimmed and flat text

Trimming takes blanks away at the two ends and nothing else, and a trimmed text
is exactly one that trimming leaves alone. Squeezing leaves single spaces as the
only blanks. A flat text is both, and flattening fixes it.
-/

namespace PageMarkdown.Text

/-! ## Trimming -/

/-- The text neither begins nor ends with a blank. -/
structure IsTrimmed (t : Text) : Prop where
  /-- The first character is no blank. -/
  head : ∀ c, t.head? = some c → isBlank c = false
  /-- The last character is no blank. -/
  last : ∀ c, t.getLast? = some c → isBlank c = false

theorem isTrimmed_nil : IsTrimmed [] := ⟨by simp, by simp⟩

/-- A character survives on the right when it is no blank or something behind it survives. -/
theorem trimRight_cons (c : Char) (t : Text) :
    trimRight (c :: t) = if trimRight t = [] ∧ isBlank c = true then [] else c :: trimRight t := by
  cases h : trimRight t with
  | nil => cases hc : isBlank c <;> simp [trimRight, h, hc]
  | cons d kept => simp [trimRight, h]

/-- Only blanks are taken away on the right. -/
theorem exists_append_trimRight (t : Text) :
    ∃ after, t = trimRight t ++ after ∧ ∀ c ∈ after, isBlank c = true := by
  induction t with
  | nil => exact ⟨[], rfl, by simp⟩
  | cons c t ih =>
    obtain ⟨after, ht, hafter⟩ := ih
    rw [trimRight_cons]
    by_cases h : trimRight t = [] ∧ isBlank c = true
    · rw [if_pos h]
      rw [h.1, List.nil_append] at ht
      refine ⟨c :: t, rfl, ?_⟩
      intro d hd
      rcases List.mem_cons.mp hd with rfl | hd
      · exact h.2
      · exact hafter d (ht ▸ hd)
    · rw [if_neg h]
      exact ⟨after, by rw [List.cons_append, ← ht], hafter⟩

/-- Only blanks are taken away on the left. -/
theorem exists_append_trimLeft (t : Text) :
    ∃ before, t = before ++ trimLeft t ∧ ∀ c ∈ before, isBlank c = true := by
  refine ⟨t.takeWhile isBlank, List.takeWhile_append_dropWhile.symm, ?_⟩
  intro c hc
  simpa using List.all_eq_true.mp List.all_takeWhile c hc

/-- A text is its trimmed form between two runs of blanks. -/
theorem exists_append_trim (t : Text) :
    ∃ before after, t = before ++ trim t ++ after ∧
      (∀ c ∈ before, isBlank c = true) ∧ ∀ c ∈ after, isBlank c = true := by
  obtain ⟨before, ht, hbefore⟩ := exists_append_trimLeft t
  obtain ⟨after, hl, hafter⟩ := exists_append_trimRight (trimLeft t)
  refine ⟨before, after, ?_, hbefore, hafter⟩
  rw [trim, List.append_assoc, ← hl, ← ht]

theorem infix_trim (t : Text) : trim t <:+: t := by
  obtain ⟨before, after, ht, -, -⟩ := exists_append_trim t
  exact ⟨before, after, ht.symm⟩

/-- What is left on the right does not end with a blank. -/
theorem isBlank_getLast?_trimRight (t : Text) (c : Char)
    (h : (trimRight t).getLast? = some c) : isBlank c = false := by
  induction t with
  | nil => simp [trimRight] at h
  | cons d t ih =>
    rw [trimRight_cons] at h
    split at h
    · simp at h
    · rename_i hkept
      cases hr : trimRight t with
      | nil =>
        have hd : d = c := by simpa [hr] using h
        simpa [hr, hd] using hkept
      | cons e kept => exact ih (by simpa [hr, List.getLast?_cons_cons] using h)

/-- The right end can be trimmed without touching the first character. -/
theorem head?_trimRight {t : Text} {c : Char} (h : (trimRight t).head? = some c) :
    t.head? = some c := by
  obtain ⟨after, ht, -⟩ := exists_append_trimRight t
  rw [ht, List.head?_append, h]
  rfl

/-- Trimming gives a trimmed text. -/
theorem isTrimmed_trim (t : Text) : IsTrimmed (trim t) := by
  constructor
  · intro c hc
    have hl : (trimLeft t).head? = some c := head?_trimRight hc
    have hn := List.head?_dropWhile_not isBlank t
    rw [show List.dropWhile isBlank t = trimLeft t from rfl, hl] at hn
    exact hn
  · intro c hc
    exact isBlank_getLast?_trimRight _ c hc

/-- A text that does not end with a blank has nothing to trim on the right. -/
theorem trimRight_eq_self {t : Text} (h : ∀ c, t.getLast? = some c → isBlank c = false) :
    trimRight t = t := by
  induction t with
  | nil => rfl
  | cons c t ih =>
    cases t with
    | nil => simp [trimRight, h c rfl]
    | cons d t =>
      have hd := ih fun e he => h e (by rw [List.getLast?_cons_cons]; exact he)
      rw [trimRight_cons, hd, if_neg (by simp)]

/-- A trimmed text is left alone. -/
theorem IsTrimmed.trim_eq {t : Text} (h : IsTrimmed t) : trim t = t := by
  have hl : trimLeft t = t := by
    cases t with
    | nil => rfl
    | cons c t => simp [trimLeft, h.head c rfl]
  rw [trim, hl, trimRight_eq_self h.last]

@[simp] theorem trim_trim (t : Text) : trim (trim t) = trim t := (isTrimmed_trim t).trim_eq

/-- Nothing is left of blanks. -/
theorem trimRight_eq_nil {t : Text} (h : ∀ c ∈ t, isBlank c = true) : trimRight t = [] := by
  induction t with
  | nil => rfl
  | cons c t ih =>
    have hrest := ih fun d hd => h d (List.mem_cons_of_mem _ hd)
    rw [trimRight_cons, if_pos ⟨hrest, h c List.mem_cons_self⟩]

/-- Blanks at the right end make no difference. -/
theorem trimRight_append (t : Text) {after : Text} (h : ∀ c ∈ after, isBlank c = true) :
    trimRight (t ++ after) = trimRight t := by
  induction t with
  | nil => exact trimRight_eq_nil h
  | cons c t ih => rw [List.cons_append, trimRight_cons, ih, trimRight_cons]

/-- Blanks around a trimmed text are taken away, and no more. -/
theorem IsTrimmed.trim_append {t before after : Text} (h : IsTrimmed t)
    (hbefore : ∀ c ∈ before, isBlank c = true) (hafter : ∀ c ∈ after, isBlank c = true) :
    trim (before ++ t ++ after) = t := by
  rw [trim, trimLeft, List.append_assoc, List.dropWhile_append_of_pos hbefore]
  cases t with
  | nil =>
    rw [List.nil_append, List.dropWhile_eq_nil_iff.mpr hafter]
    rfl
  | cons c t =>
    rw [List.cons_append, List.dropWhile_cons_of_neg (by simp [h.head c rfl]),
      ← List.cons_append, trimRight_append _ hafter, trimRight_eq_self h.last]

/-- Nothing is left exactly of a blank text. -/
theorem trim_eq_nil_iff (t : Text) : trim t = [] ↔ isAllBlank t = true := by
  rw [isAllBlank, List.all_eq_true]
  obtain ⟨before, after, ht, hbefore, hafter⟩ := exists_append_trim t
  constructor
  · intro h c hc
    rw [ht, h, List.append_nil, List.mem_append] at hc
    exact hc.elim (hbefore c) (hafter c)
  · intro h
    cases hr : trim t with
    | nil => rfl
    | cons c kept =>
      have hb : isBlank c = true := h c (by rw [ht, hr]; simp)
      have hn : isBlank c = false := (isTrimmed_trim t).head c (by rw [hr]; rfl)
      rw [hb] at hn
      cases hn

theorem isAllBlank_cons (c : Char) (t : Text) :
    isAllBlank (c :: t) = (isBlank c && isAllBlank t) := rfl

theorem isAllBlank_trim (t : Text) : isAllBlank (trim t) = isAllBlank t := by
  rw [Bool.eq_iff_iff, ← trim_eq_nil_iff, trim_trim, trim_eq_nil_iff]

/-! ## Solid ends -/

/-- The text begins with a character that is no blank. -/
def StartsSolid (t : Text) : Prop := ∃ c, t.head? = some c ∧ isBlank c = false

/-- The text ends with a character that is no blank. -/
def EndsSolid (t : Text) : Prop := ∃ c, t.getLast? = some c ∧ isBlank c = false

/-- A digit is no blank. -/
theorem isBlank_of_isDigit {c : Char} (h : c.isDigit = true) : isBlank c = false := by
  have hdigit : 48 ≤ c.toNat ∧ c.toNat ≤ 57 := Char.isDigit_iff_toNat.mp h
  by_contra hb
  have hblank := Bool.of_not_eq_false hb
  simp only [isBlank, Bool.or_eq_true, Bool.and_eq_true, decide_eq_true_eq, beq_iff_eq] at hblank
  omega

theorem startsSolid_cons {c : Char} (h : isBlank c = false) (t : Text) : StartsSolid (c :: t) :=
  ⟨c, rfl, h⟩

theorem StartsSolid.append {t : Text} (h : StartsSolid t) (u : Text) : StartsSolid (t ++ u) := by
  obtain ⟨c, hc, hb⟩ := h
  exact ⟨c, by rw [List.head?_append, hc]; rfl, hb⟩

theorem EndsSolid.append {t : Text} (h : EndsSolid t) (u : Text) : EndsSolid (u ++ t) := by
  obtain ⟨c, hc, hb⟩ := h
  exact ⟨c, by rw [List.getLast?_append, hc]; rfl, hb⟩

theorem EndsSolid.cons {t : Text} (h : EndsSolid t) (c : Char) : EndsSolid (c :: t) :=
  h.append [c]

theorem StartsSolid.ne_nil {t : Text} (h : StartsSolid t) : t ≠ [] := by
  obtain ⟨c, hc, -⟩ := h
  rintro rfl
  cases hc

theorem EndsSolid.ne_nil {t : Text} (h : EndsSolid t) : t ≠ [] := by
  obtain ⟨c, hc, -⟩ := h
  rintro rfl
  cases hc

/-- A text with a solid start is not blank. -/
theorem StartsSolid.isAllBlank_eq_false {t : Text} (h : StartsSolid t) : isAllBlank t = false := by
  obtain ⟨c, hc, hb⟩ := h
  rw [isAllBlank, List.all_eq_false]
  exact ⟨c, List.mem_of_head? hc, by rw [hb]; exact Bool.false_ne_true⟩

theorem StartsSolid.isAllBlank_append {t : Text} (h : StartsSolid t) (before : Text) :
    isAllBlank (before ++ t) = false := by
  rw [isAllBlank, List.all_append, ← isAllBlank, ← isAllBlank, h.isAllBlank_eq_false,
    Bool.and_false]

/-- A text with a solid end is not blank. -/
theorem EndsSolid.isAllBlank_eq_false {t : Text} (h : EndsSolid t) : isAllBlank t = false := by
  obtain ⟨c, hc, hb⟩ := h
  rw [isAllBlank, List.all_eq_false]
  exact ⟨c, List.mem_of_getLast? hc, by rw [hb]; exact Bool.false_ne_true⟩

/-- Blanks before a solid start are trimmed, and nothing more at this end. -/
theorem StartsSolid.trim_append {t : Text} (h : StartsSolid t) {before : Text}
    (hbefore : ∀ c ∈ before, isBlank c = true) : trim (before ++ t) = trimRight t := by
  obtain ⟨c, hc, hb⟩ := h
  cases t with
  | nil => cases hc
  | cons d t =>
    obtain rfl : d = c := Option.some.inj hc
    rw [trim, trimLeft, List.dropWhile_append_of_pos hbefore, List.dropWhile_cons, hb,
      if_neg Bool.false_ne_true]

/-- Nothing is taken away behind a solid end but what stands behind it. -/
theorem EndsSolid.trimRight_append {t : Text} (h : EndsSolid t) {after : Text}
    (hafter : ∀ c ∈ after, isBlank c = true) : trimRight (t ++ after) = t := by
  obtain ⟨d, hd, hb⟩ := h
  rw [Text.trimRight_append t hafter, trimRight_eq_self]
  intro c hc
  rwa [← Option.some.inj (hd.symm.trans hc)]

/-- The text has content up to both of its ends. -/
structure IsSolid (t : Text) : Prop where
  /-- The first character is no blank. -/
  starts : StartsSolid t
  /-- The last character is no blank. -/
  ends : EndsSolid t

theorem IsSolid.isTrimmed {t : Text} (h : IsSolid t) : IsTrimmed t := by
  obtain ⟨⟨c, hc, hcb⟩, d, hd, hdb⟩ := h
  constructor
  · intro e he
    rwa [← Option.some.inj (hc.symm.trans he)]
  · intro e he
    rwa [← Option.some.inj (hd.symm.trans he)]

/-- A trimmed text that is not empty has solid ends. -/
theorem IsTrimmed.isSolid {t : Text} (h : IsTrimmed t) (hne : t ≠ []) : IsSolid t := by
  constructor
  · cases t with
    | nil => exact absurd rfl hne
    | cons c t => exact startsSolid_cons (h.head c rfl) t
  · exact ⟨t.getLast hne, List.getLast?_eq_some_getLast hne,
      h.last _ (List.getLast?_eq_some_getLast hne)⟩

/-- What is left of a text that is not blank has solid ends. -/
theorem isSolid_trim {t : Text} (h : isAllBlank t = false) : IsSolid (trim t) := by
  refine (isTrimmed_trim t).isSolid fun hnil => ?_
  rw [(trim_eq_nil_iff t).mp hnil] at h
  cases h

/-- A text that is not blank begins solidly without its leading blanks. -/
theorem startsSolid_trimLeft {t : Text} (h : isAllBlank t = false) : StartsSolid (trimLeft t) := by
  cases hrest : trimLeft t with
  | nil =>
    obtain ⟨gap, ht, hgap⟩ := exists_append_trimLeft t
    rw [hrest, List.append_nil] at ht
    rw [ht, isAllBlank, List.all_eq_true.mpr hgap] at h
    cases h
  | cons c rest =>
    have hhead := List.head?_dropWhile_not isBlank t
    rw [show t.dropWhile isBlank = c :: rest from hrest] at hhead
    exact startsSolid_cons hhead rest

/-- A text that is not blank ends solidly without its trailing blanks. -/
theorem endsSolid_trimRight {t : Text} (h : isAllBlank t = false) : EndsSolid (trimRight t) := by
  have hne : trimRight t ≠ [] := by
    intro hnil
    obtain ⟨gap, ht, hgap⟩ := exists_append_trimRight t
    rw [hnil, List.nil_append] at ht
    rw [ht, isAllBlank, List.all_eq_true.mpr hgap] at h
    cases h
  have hlast := List.getLast?_eq_some_getLast hne
  exact ⟨_, hlast, isBlank_getLast?_trimRight _ _ hlast⟩

/-! ## Flat text -/

/-- Every blank of the text is a space, and no blank follows another. -/
structure IsSqueezed (t : Text) : Prop where
  /-- The only blanks are spaces. -/
  spaces : ∀ c ∈ t, isBlank c = true → c = ' '
  /-- Of two neighbours one is no blank. -/
  single : t.IsChain fun a b => isBlank a = true → isBlank b = false

/-- After a written blank, squeezing goes on with something that is no blank. -/
theorem isBlank_head?_squeezeFrom_true (t : Text) (c : Char)
    (h : (squeezeFrom true t).head? = some c) : isBlank c = false := by
  induction t with
  | nil => simp [squeezeFrom] at h
  | cons d t ih =>
    cases hd : isBlank d with
    | true => exact ih (by simpa [squeezeFrom, hd] using h)
    | false =>
      have hdc : d = c := by simpa [squeezeFrom, hd] using h
      exact hdc ▸ hd

/-- Squeezing gives a squeezed text, whatever has been written before. -/
theorem isSqueezed_squeezeFrom (written : Bool) (t : Text) :
    IsSqueezed (squeezeFrom written t) := by
  induction t generalizing written with
  | nil => exact ⟨by simp [squeezeFrom], by simp [squeezeFrom]⟩
  | cons c t ih =>
    have htrue := ih true
    have hfalse := ih false
    cases hc : isBlank c with
    | true =>
      cases written with
      | true => simpa [squeezeFrom, hc] using htrue
      | false =>
        have he : squeezeFrom false (c :: t) = ' ' :: squeezeFrom true t := by
          simp [squeezeFrom, hc]
        rw [he]
        constructor
        · intro d hd hb
          rcases List.mem_cons.mp hd with rfl | hd
          · rfl
          · exact htrue.spaces d hd hb
        · refine List.isChain_cons.mpr ⟨?_, htrue.single⟩
          intro d hd _
          exact isBlank_head?_squeezeFrom_true t d hd
    | false =>
      have he : squeezeFrom written (c :: t) = c :: squeezeFrom false t := by
        simp [squeezeFrom, hc]
      rw [he]
      constructor
      · intro d hd hb
        rcases List.mem_cons.mp hd with rfl | hd
        · rw [hc] at hb
          cases hb
        · exact hfalse.spaces d hd hb
      · refine List.isChain_cons.mpr ⟨?_, hfalse.single⟩
        intro d _ hb
        rw [hc] at hb
        cases hb

/-- A squeezed text is left alone. -/
theorem IsSqueezed.squeezeFrom_eq {t : Text} (h : IsSqueezed t) (written : Bool)
    (hw : written = true → ∀ c, t.head? = some c → isBlank c = false) :
    squeezeFrom written t = t := by
  induction t generalizing written with
  | nil => rfl
  | cons c t ih =>
    obtain ⟨hsingle, hrest⟩ := List.isChain_cons.mp h.single
    have ht : IsSqueezed t := ⟨fun d hd => h.spaces d (List.mem_cons_of_mem _ hd), hrest⟩
    cases hc : isBlank c with
    | true =>
      have hspace : c = ' ' := h.spaces c List.mem_cons_self hc
      have hwritten : written = false := by
        cases written with
        | false => rfl
        | true => rw [hw rfl c rfl] at hc; cases hc
      have hnext : squeezeFrom true t = t := ih ht true fun _ d hd => hsingle d hd hc
      rw [hwritten, squeezeFrom, if_pos hc, if_neg Bool.false_ne_true, hnext, ← hspace]
    | false =>
      have hnext : squeezeFrom false t = t := ih ht false fun hf => by cases hf
      simp [squeezeFrom, hc, hnext]

theorem IsSqueezed.squeeze_eq {t : Text} (h : IsSqueezed t) : squeeze t = t :=
  h.squeezeFrom_eq false fun hf => by cases hf

/-- The text stands on one line: trimmed, with single spaces as its only blanks. -/
structure IsFlat (t : Text) : Prop where
  /-- Neither end is a blank. -/
  trimmed : IsTrimmed t
  /-- Blanks are single spaces. -/
  squeezed : IsSqueezed t

theorem isFlat_nil : IsFlat [] := ⟨isTrimmed_nil, by simp, by simp⟩

/-- Trimming a squeezed text makes it flat. -/
theorem isFlat_trim_squeeze (t : Text) : IsFlat (trim (squeeze t)) := by
  have hs : IsSqueezed (squeeze t) := isSqueezed_squeezeFrom false t
  have hpiece := infix_trim (squeeze t)
  refine ⟨isTrimmed_trim _, fun c hc => hs.spaces c (hpiece.subset hc), ?_⟩
  exact List.IsChain.infix hs.single hpiece

/-- Squeezing and trimming on the left may be done in either order. -/
theorem trimLeft_squeezeFrom (written : Bool) (t : Text) :
    trimLeft (squeezeFrom written t) = squeeze (trimLeft t) := by
  induction t generalizing written with
  | nil => rfl
  | cons c t ih =>
    have htrim : trimLeft (c :: t) = if isBlank c then trimLeft t else c :: t :=
      List.dropWhile_cons
    rw [htrim]
    cases hc : isBlank c with
    | true =>
      rw [if_pos rfl, ← ih true]
      cases written <;> simp [squeezeFrom, hc, trimLeft, show isBlank ' ' = true by decide]
    | false => simp [squeeze, squeezeFrom, hc, trimLeft]

/-- Nothing remains behind a written blank when there are only blanks. -/
theorem squeezeFrom_true_eq_nil_iff (t : Text) :
    squeezeFrom true t = [] ↔ ∀ c ∈ t, isBlank c = true := by
  induction t with
  | nil => simp [squeezeFrom]
  | cons c t ih => cases hc : isBlank c <;> simp [squeezeFrom, hc, ih]

/-- Squeezing and trimming on the right may be done in either order. -/
theorem trimRight_squeezeFrom (written : Bool) (t : Text) :
    trimRight (squeezeFrom written t) = squeezeFrom written (trimRight t) := by
  induction t generalizing written with
  | nil => rfl
  | cons c t ih =>
    rw [trimRight_cons c t]
    cases hc : isBlank c with
    | false => simp [squeezeFrom, hc, trimRight_cons, ih]
    | true =>
      have hkept : squeezeFrom true (trimRight t) = [] ↔ trimRight t = [] := by
        rw [squeezeFrom_true_eq_nil_iff]
        refine ⟨fun hblank => ?_, fun hnil => by simp [hnil]⟩
        rw [← trimRight_eq_nil hblank]
        exact (trimRight_eq_self (isBlank_getLast?_trimRight t)).symm
      by_cases hnil : trimRight t = []
      · cases written <;>
          simp [squeezeFrom, hc, hnil, trimRight_cons, ih, show isBlank ' ' = true by decide]
      · cases written <;> simp [squeezeFrom, hc, hnil, hkept, trimRight_cons, ih]

/-- Squeezing before trimming flattens a text too. -/
theorem trim_squeeze (t : Text) : trim (squeeze t) = flatten t := by
  rw [trim, squeeze, trimLeft_squeezeFrom, squeeze, trimRight_squeezeFrom, flatten, trim, squeeze]

theorem squeeze_eq_nil_iff (t : Text) : squeeze t = [] ↔ t = [] := by
  cases t with
  | nil => exact iff_of_true rfl rfl
  | cons c t =>
    rw [squeeze, squeezeFrom]
    split <;> simp

/-- Squeezing leaves blanks of a blank text only. -/
theorem isAllBlank_squeeze (t : Text) : isAllBlank (squeeze t) = isAllBlank t := by
  rw [Bool.eq_iff_iff, ← trim_eq_nil_iff, trim_squeeze, flatten, squeeze_eq_nil_iff,
    trim_eq_nil_iff]

theorem isFlat_flatten (t : Text) : IsFlat (flatten t) := trim_squeeze t ▸ isFlat_trim_squeeze t

/-- A flat text is left alone. -/
theorem IsFlat.flatten_eq {t : Text} (h : IsFlat t) : flatten t = t := by
  rw [flatten, h.trimmed.trim_eq, h.squeezed.squeeze_eq]

end PageMarkdown.Text
