import PageMarkdown.Markdown.Grid
import PageMarkdown.Proofs.Numeral.Integer
import PageMarkdown.Proofs.Settings

/-!
# Numerals that are clamped

The span of a cell and the depth that is set from outside are numerals, each
brought into a range. A numeral of any value is, as long as it is short. One with
more digits than can be read is taken for no number at all, and gives what a
missing one would: the least span, and the default depth.
-/

namespace PageMarkdown

open Text Numeral Markdown

/-! ## Spans and depths of numerals -/

/-- The span that a numeral gives: its value within the range, when it is short. -/
theorem columnSpan_spelling (s : Spelling) :
    (columnSpan (some s.text) : Int) = if s.IsShort then max 1 (min s.value maxSpan) else 1 := by
  have hread : integer? (trim s.text) = if s.IsShort then some s.value else none := by
    rw [s.trim_text, integer?_of_isPadded s.isPadded_bare]
    rfl
  rw [columnSpan, Option.bind_some, hread]
  by_cases hshort : s.IsShort
  · rw [if_pos hshort, if_pos hshort]
    dsimp only
    rw [maxSpan]
    omega
  · rw [if_neg hshort, if_neg hshort]
    rfl

/-- The depth that is found when a text is set from outside. -/
def depthSetTo (env : Environment) (setting : Text) : Except Fault Int :=
  (ConvertSettings.fromEnvironment { env with depthSetting := some setting }).outcome.map
    (·.maxDepth)

/-- The depth that a positive numeral gives: its value up to the safe depth, when it is short and
there are only blanks around it that are skipped. -/
theorem depthSetTo_spelling (env : Environment) {s : Spelling} (h : 1 ≤ s.value) :
    depthSetTo env s.text =
      .ok (min (if s.IsShort ∧ s.IsPadded then s.value else defaultDepth) env.safeDepth) := by
  have hdepth := ConvertSettings.fromEnvironment_outcome
    { env with depthSetting := some s.text } rfl
  rw [depthSetTo, hdepth, integer?_text]
  by_cases hread : s.IsShort ∧ s.IsPadded
  · rw [if_pos hread, if_pos hread, Option.getD_some]
    dsimp only
    rw [if_pos h]
    rfl
  · rw [if_neg hread, if_neg hread]
    rfl

/-- A cell spans as many columns as the value of its numeral says, brought into the range from 1 to
the most columns, exactly when the numeral is short or its value is at most 1; otherwise it spans
one. The depth set from outside by a positive numeral is its value up to the safe depth when the
numeral is short and only blanks that are skipped stand around it, and the default depth up to the
safe depth otherwise. So among numerals that are read, a greater value gives no smaller span and no
smaller depth. -/
theorem clamped_by_value (env : Environment) :
    (∀ s : Spelling,
      ((columnSpan (some s.text) : Int) = max 1 (min s.value maxSpan) ↔
        s.IsShort ∨ s.value ≤ 1) ∧
      (¬ s.IsShort → columnSpan (some s.text) = 1)) ∧
    (∀ s : Spelling, 1 ≤ s.value → depthSetTo env s.text =
      .ok (min (if s.IsShort ∧ s.IsPadded then s.value else defaultDepth) env.safeDepth)) ∧
    (∀ s s' : Spelling, s.IsShort → s'.IsShort → s.value ≤ s'.value →
      columnSpan (some s.text) ≤ columnSpan (some s'.text)) ∧
    ∀ s s' : Spelling, s.IsShort ∧ s.IsPadded → s'.IsShort ∧ s'.IsPadded → 1 ≤ s.value →
      s.value ≤ s'.value →
        ∃ d d', depthSetTo env s.text = .ok d ∧ depthSetTo env s'.text = .ok d' ∧ d ≤ d' := by
  refine ⟨fun s => ?_, fun s => depthSetTo_spelling env, fun s s' hs hs' hle => ?_,
    fun s s' hs hs' hpos hle => ?_⟩
  · have hspan := columnSpan_spelling s
    by_cases hshort : s.IsShort
    · rw [if_pos hshort] at hspan
      exact ⟨iff_of_true hspan (.inl hshort), fun hlong => absurd hshort hlong⟩
    · rw [if_neg hshort] at hspan
      refine ⟨?_, fun _ => by omega⟩
      rw [hspan, or_iff_right hshort, maxSpan]
      omega
  · have hspan := columnSpan_spelling s
    have hspan' := columnSpan_spelling s'
    rw [if_pos hs] at hspan
    rw [if_pos hs'] at hspan'
    omega
  · have hdepth := depthSetTo_spelling env hpos
    have hdepth' := depthSetTo_spelling env (hpos.trans hle)
    rw [if_pos hs] at hdepth
    rw [if_pos hs'] at hdepth'
    exact ⟨_, _, hdepth, hdepth', min_le_min_right _ hle⟩

/-- Forty-two behind an ideographic space, with a plus sign and leading zeros. -/
def paddedNumeral : Spelling where
  before := ['\u3000', ' ']
  sign := .plus
  digits := "0042".toList
  after := ['\t']
  isBlank_before := List.all_eq_true.mp (by decide)
  isBlank_after := List.all_eq_true.mp (by decide)
  digits_ne_nil := List.cons_ne_nil _ _
  isDigit_digits := List.all_eq_true.mp (by decide)

/-- Two thousand in Arabic-Indic digits. -/
def arabicNumeral : Spelling where
  before := []
  sign := .none
  digits := ['\u0662', '\u0660', '\u0660', '\u0660']
  after := []
  isBlank_before := Spelling.isBlank_of_mem_nil
  isBlank_after := Spelling.isBlank_of_mem_nil
  digits_ne_nil := List.cons_ne_nil _ _
  isDigit_digits := List.all_eq_true.mp (by decide)

theorem clamped_by_value_padded :
    paddedNumeral.text = "\u3000 +0042\t".toList ∧ paddedNumeral.value = 42 ∧
    arabicNumeral.value = 2000 ∧
    (paddedNumeral.IsShort ∧ paddedNumeral.IsPadded) ∧
    (arabicNumeral.IsShort ∧ arabicNumeral.IsPadded) ∧
    1 ≤ paddedNumeral.value ∧ paddedNumeral.value ≤ arabicNumeral.value ∧
    (columnSpan (some paddedNumeral.text) : Int) = 42 ∧
    (columnSpan (some arabicNumeral.text) : Int) = 1000 ∧
    depthSetTo {} paddedNumeral.text = .ok 42 ∧ depthSetTo {} arabicNumeral.text = .ok 141 ∧
    columnSpan (some paddedNumeral.text) ≤ columnSpan (some arabicNumeral.text) ∧
    ∃ d d', depthSetTo {} paddedNumeral.text = .ok d ∧ depthSetTo {} arabicNumeral.text = .ok d' ∧
      d ≤ d' := by
  have hpadded : paddedNumeral.IsShort ∧ paddedNumeral.IsPadded := by decide
  have harabic : arabicNumeral.IsShort ∧ arabicNumeral.IsPadded := by decide
  have hpos : 1 ≤ paddedNumeral.value := by decide
  have hle : paddedNumeral.value ≤ arabicNumeral.value := by decide
  obtain ⟨hspan, hdepth, hspans, hdepths⟩ := clamped_by_value {}
  refine ⟨rfl, by decide, by decide, hpadded, harabic, hpos, hle,
    (hspan _).1.mpr (.inl hpadded.1), (hspan _).1.mpr (.inl harabic.1), ?_, ?_,
    hspans _ _ hpadded.1 harabic.1 hle, hdepths _ _ hpadded harabic hpos hle⟩
  · exact (hdepth _ hpos).trans (by decide)
  · exact (hdepth _ (hpos.trans hle)).trans (by decide)

theorem isDigit_ones {n : Nat} : ∀ c ∈ List.replicate n '1', DecimalDigit.isDigit c = true := by
  intro c hc
  rw [List.eq_of_mem_replicate hc]
  decide

/-- A numeral of one digit more than can be read, all of them ones. -/
def longOnes : Spelling where
  before := []
  sign := .none
  digits := List.replicate (digitLimit + 1) '1'
  after := []
  isBlank_before := Spelling.isBlank_of_mem_nil
  isBlank_after := Spelling.isBlank_of_mem_nil
  digits_ne_nil := List.cons_ne_nil _ _
  isDigit_digits := isDigit_ones

theorem not_isShort_longOnes : ¬ longOnes.IsShort := by
  simp [Spelling.IsShort, longOnes]

/-- A row of ones stands for at least their number. -/
theorem le_value_longOnes : digitLimit + 1 ≤ longOnes.value := by
  have hones : (longOnes.digits.reverse.map digitOf) = List.replicate (digitLimit + 1) 1 := by
    rw [longOnes, List.reverse_replicate, List.map_replicate]
    rfl
  have hsum := Nat.sum_le_ofDigits (p := 10) (List.replicate (digitLimit + 1) 1) (by decide)
  rw [List.sum_replicate_nat, mul_one] at hsum
  rw [Spelling.value, hones]
  exact Int.ofNat_le.mpr hsum

/-- With one digit too many, a numeral far above the range gives a span of one column, and the
default depth. -/
theorem longOnes_unread :
    longOnes.text = List.replicate 4301 '1' ∧ 4301 ≤ longOnes.value ∧
    columnSpan (some longOnes.text) = 1 ∧ max 1 (min longOnes.value maxSpan) = 1000 ∧
    depthSetTo {} longOnes.text = .ok 100 ∧
    min longOnes.value ({} : Environment).safeDepth = 141 := by
  have hvalue : 4301 ≤ longOnes.value := le_value_longOnes
  have hspan := columnSpan_spelling longOnes
  have hdepth := depthSetTo_spelling {} (s := longOnes) (by omega)
  rw [if_neg not_isShort_longOnes] at hspan
  rw [if_neg fun h => not_isShort_longOnes h.1] at hdepth
  have hsafe : ({} : Environment).safeDepth = 141 := by decide
  refine ⟨List.append_nil _, hvalue, by omega, ?_, hdepth.trans (by decide), ?_⟩
  · rw [maxSpan]
    omega
  · rw [hsafe]
    omega

end PageMarkdown
