import PageMarkdown.Html.Token
import PageMarkdown.Proofs.Text.Letters
import PageMarkdown.Proofs.Text.Lowercase

/-!
# Names in tags

The names of elements and attributes end at separators. No character but a separator
itself is lowered to one, so that a name in lower case is a name again: where it
is written, it is read as it is.
-/

namespace PageMarkdown.LetterCase

/-- The characters that separate the parts of a tag, as intervals. -/
def separatorIntervals : List (Nat × Nat) :=
  [(0x00, 0x00), (0x09, 0x0D), (0x1C, 0x20), (0x2F, 0x2F), (0x3D, 0x3E), (0x85, 0x85), (0xA0, 0xA0),
    (0x1680, 0x1680), (0x2000, 0x200A), (0x2028, 0x2029), (0x202F, 0x202F), (0x205F, 0x205F),
    (0x3000, 0x3000)]

theorem runs_miss_separators : (runs.all fun r => separatorIntervals.all fun interval =>
    decide (interval.2 < r.image r.first) || decide (r.image r.last < interval.1)) = true := by
  decide +kernel

/-- No run lowers to a separator. -/
theorem image_not_in_interval {r : Run} (hr : r ∈ runs) {c : Nat} (h : r.covers c = true)
    {interval : Nat × Nat} (hinterval : interval ∈ separatorIntervals) :
    ¬ (interval.1 ≤ r.image c ∧ r.image c ≤ interval.2) := by
  have hmisses := List.all_eq_true.mp (List.all_eq_true.mp runs_miss_separators r hr) _ hinterval
  have hbounds := Run.image_bounds h
  simp only [Bool.or_eq_true, decide_eq_true_eq] at hmisses
  omega

end PageMarkdown.LetterCase

namespace PageMarkdown.Text

open LetterCase

/-! ## Separators -/

/-- A character that separates the parts of a tag. -/
def isSeparator (c : Char) : Bool := isBlank c || c = '/' || c = '>' || c = '=' || c = '\x00'

theorem exists_interval_of_isSeparator {c : Char} (h : isSeparator c = true) :
    ∃ interval ∈ separatorIntervals, interval.1 ≤ c.toNat ∧ c.toNat ≤ interval.2 := by
  simp only [isSeparator, isBlank, Bool.or_eq_true, Bool.and_eq_true, decide_eq_true_eq,
    beq_iff_eq, ← Char.toNat_inj] at h
  simp only [separatorIntervals, List.exists_mem_cons_iff, List.not_mem_nil, false_and,
    exists_false, or_false]
  simp at h
  omega

/-- A separator is no letter. -/
theorem isLetter_of_isSeparator {c : Char} (h : isSeparator c = true) : isLetter c = false := by
  simp only [isSeparator, Bool.or_eq_true, decide_eq_true_eq] at h
  rcases h with (((hblank | rfl) | rfl) | rfl) | rfl
  · exact isLetter_of_isBlank hblank
  all_goals decide

/-- A letter of ASCII stays one in lower case. -/
theorem isLetter_toLower {c : Char} (h : isLetter c = true) : isLetter c.toLower = true := by
  simpa [isLetter] using h

/-- Only a separator itself is lowered to it. -/
theorem eq_of_mem_lowerChar {c d : Char} (hd : isSeparator d = true) (h : d ∈ lowerChar c) :
    c = d := by
  rw [lowerChar] at h
  split at h
  · obtain rfl := List.mem_singleton.mp h
    by_cases hupper : c.isUpper = true
    · have hletter : isLetter c.toLower = true :=
        isLetter_toLower (by simp [isLetter, Char.isAlpha, hupper])
      rw [isLetter_of_isSeparator hd] at hletter
      cases hletter
    · exact (Char.toLower_eq_of_not_isUpper hupper).symm
  · split at h
    · rcases List.mem_cons.mp h with rfl | h
      · exact absurd hd (by decide)
      · obtain rfl := List.mem_singleton.mp h
        exact absurd hd (by decide)
    · split at h
      · rename_i r hfound
        obtain rfl := List.mem_singleton.mp h
        have hr := List.mem_of_find?_eq_some hfound
        have hcovers : r.covers c.toNat = true :=
          List.find?_some (p := fun r : Run => r.covers c.toNat) hfound
        have himage : (Char.ofNat ((c.toNat : Int) + r.shift).toNat).toNat = r.image c.toNat := by
          rw [Char.toNat_ofNat]
          exact if_pos (image_isValidChar hr hcovers)
        obtain ⟨interval, hinterval, hbounds⟩ := exists_interval_of_isSeparator hd
        exact absurd (himage ▸ hbounds) (image_not_in_interval hr hcovers hinterval)
      · exact (List.mem_singleton.mp h).symm

/-- A text in lower case has only the separators that the text has. -/
theorem mem_of_mem_lowerFrom {before : Bool} {t : Text} {d : Char} (hd : isSeparator d = true)
    (h : d ∈ lowerFrom before t) : d ∈ t := by
  induction t generalizing before with
  | nil => cases h
  | cons c t ih =>
    rw [lowerFrom] at h
    rcases List.mem_append.mp h with h | h
    · split at h
      · obtain rfl := List.mem_singleton.mp h
        split at hd <;> exact absurd hd (by decide)
      · obtain rfl := eq_of_mem_lowerChar hd h
        exact List.mem_cons_self
    · exact List.mem_cons_of_mem c (ih h)

end PageMarkdown.Text

namespace PageMarkdown.Html.Token

open Text

/-! ## Names -/

/-- The name of an element as it is read off a tag: a letter and what is not cut off behind it, in
lower case. -/
structure IsTagName (name : Text) : Prop where
  /-- It begins with a letter. -/
  starts : ∃ c t, name = c :: t ∧ isLetter c = true
  /-- It has no character that would end it. -/
  unbroken : ∀ c ∈ name, isTagChar c = true
  /-- It is in lower case. -/
  lowered : lower name = name

/-- The name of an attribute as it is read off a tag. -/
structure IsKey (key : Text) : Prop where
  /-- It is not empty. -/
  filled : key ≠ []
  /-- It has no character that would end it. -/
  unbroken : ∀ c ∈ key, (isBlank c || c = '/' || c = '>') = false
  /-- An equals sign is at most its first character. -/
  unassigned : '=' ∉ key.tail

theorem isSeparator_of_not_isTagChar {c : Char} (h : isTagChar c = false) :
    isSeparator c = true := by
  by_contra hseparator
  simp only [isSeparator, Bool.or_eq_true, decide_eq_true_eq, not_or] at hseparator
  obtain ⟨⟨⟨⟨hblank, hslash⟩, hend⟩, -⟩, hnull⟩ := hseparator
  have hsolid : ∀ d, isBlank d = true → c ≠ d := by
    rintro d hd rfl
    exact hblank hd
  simp [isTagChar, hslash, hend, hnull, hsolid '\t' (by decide), hsolid '\n' (by decide),
    hsolid '\r' (by decide), hsolid '\x0c' (by decide), hsolid ' ' (by decide)] at h

theorem isTagChar_of_isLetter {c : Char} (h : isLetter c = true) : isTagChar c = true := by
  by_contra hbreak
  have hseparator := isSeparator_of_not_isTagChar (by simpa using hbreak)
  rw [isLetter_of_isSeparator hseparator] at h
  cases h

/-- What is read up to the end of a name is one in lower case. -/
theorem isTagName_lower {c : Char} (h : isLetter c = true) (t : Text) :
    IsTagName (lower ((c :: t).takeWhile isTagChar)) := by
  rw [List.takeWhile_cons_of_pos (isTagChar_of_isLetter h)]
  have hascii : c.toNat < 0x80 := by
    have hletter := toNat_of_isLetter h
    omega
  have hsigma : c ≠ '\u03A3' := by
    rintro rfl
    exact absurd hascii (by decide)
  have hstarts : ∃ rest, lower (c :: t.takeWhile isTagChar) = c.toLower :: rest := by
    rw [lower, lowerFrom, if_neg hsigma, lowerChar, if_pos hascii]
    exact ⟨_, rfl⟩
  obtain ⟨rest, hlower⟩ := hstarts
  refine ⟨⟨c.toLower, rest, hlower, isLetter_toLower h⟩, fun d hd => ?_, lower_lower _⟩
  by_contra hbreak
  have hbroken : isTagChar d = false := by simpa using hbreak
  have hmem := mem_of_mem_lowerFrom (isSeparator_of_not_isTagChar hbroken) hd
  rcases List.mem_cons.mp hmem with rfl | hmem
  · exact hbreak (isTagChar_of_isLetter h)
  · exact hbreak (List.mem_takeWhile_imp hmem)

theorem lowerChar_ne_nil (c : Char) : lowerChar c ≠ [] := by
  rw [lowerChar]
  split
  · simp
  · split
    · simp
    · split <;> simp

/-- An equals sign in a text in lower case that does not begin it is one in the text. -/
theorem equals_not_mem_tail_lower {c : Char} {t : Text} (h : '=' ∉ t) :
    '=' ∉ (lower (c :: t)).tail := by
  have hothers : ∀ before, '=' ∉ lowerFrom before t := fun before hmem =>
    h (mem_of_mem_lowerFrom (by decide) hmem)
  rw [lower, lowerFrom]
  split
  · exact hothers _
  · rw [List.tail_append_of_ne_nil (lowerChar_ne_nil c), List.mem_append, not_or]
    refine ⟨fun hmem => ?_, hothers _⟩
    obtain rfl := eq_of_mem_lowerChar (by decide) (List.mem_of_mem_tail hmem)
    exact absurd hmem (by decide)

/-- What is read of an attribute up to the end of its name is a key in lower case. -/
theorem isKey_lower {c : Char} (h : (isBlank c || c = '/' || c = '>') = false) (t : Text) :
    IsKey (lower (c :: t.takeWhile fun d => !(isBlank d || d = '/' || d = '=' || d = '>'))) := by
  have hrun : ∀ d ∈ t.takeWhile fun d => !(isBlank d || d = '/' || d = '=' || d = '>'),
      (isBlank d || d = '/' || d = '=' || d = '>') = false := fun d hd => by
    simpa using List.mem_takeWhile_imp hd
  generalize (t.takeWhile fun d => !(isBlank d || d = '/' || d = '=' || d = '>')) = run at hrun ⊢
  refine ⟨?_, fun d hd => ?_, equals_not_mem_tail_lower fun hmem => ?_⟩
  · rw [lower, lowerFrom]
    split <;> simp [lowerChar_ne_nil]
  · by_contra hbreak
    have hseparator : isSeparator d = true := by
      simp only [Bool.not_eq_false, Bool.or_eq_true] at hbreak
      simp only [isSeparator, Bool.or_eq_true]
      tauto
    rcases List.mem_cons.mp (mem_of_mem_lowerFrom hseparator hd) with rfl | hmem
    · exact hbreak h
    · have hbroken := hrun d hmem
      simp only [Bool.or_eq_false_iff] at hbroken hbreak
      tauto
  · exact absurd (hrun '=' hmem) (by decide)

end PageMarkdown.Html.Token
