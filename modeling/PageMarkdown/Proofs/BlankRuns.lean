import PageMarkdown.Proofs.Marks
import PageMarkdown.Proofs.Text.Blank

/-!
# Settled documents

A run of blank lines is a line feed with two more behind it and nothing but
spaces and tabs between the three. Collapsing deletes gaps only and leaves no
run: after a shrunk run no line feed is ahead, so no new run can arise beside it.
Trimming cuts pieces off the ends, which cannot make a run either, and a text
without runs is fixed by collapsing. Settled Markdown is therefore a fixpoint.
-/

namespace PageMarkdown.Markdown

open Text Html

/-! ## Line feeds ahead -/

@[simp] theorem feedsAhead_nil : feedsAhead [] = 0 := rfl

@[simp] theorem feedsAhead_newline (t : Text) : feedsAhead ('\n' :: t) = feedsAhead t + 1 := by
  simp [feedsAhead, isGap]

/-- Spaces and tabs do not change what is ahead. -/
theorem feedsAhead_space {c : Char} (t : Text) (h : isGap c = true) (hn : c ≠ '\n') :
    feedsAhead (c :: t) = feedsAhead t := by
  simp [feedsAhead, h, hn]

/-- Nothing is ahead of a character that is no gap. -/
theorem feedsAhead_solid {c : Char} (t : Text) (h : isGap c = false) : feedsAhead (c :: t) = 0 := by
  simp [feedsAhead, h]

/-- A character is a line feed, a space or tab, or no gap. -/
theorem gap_cases (c : Char) :
    c = '\n' ∨ (isGap c = true ∧ c ≠ '\n') ∨ (isGap c = false ∧ c ≠ '\n') := by
  by_cases hn : c = '\n'
  · exact .inl hn
  · cases h : isGap c with
    | true => exact .inr (.inl ⟨rfl, hn⟩)
    | false => exact .inr (.inr ⟨rfl, hn⟩)

/-- A space or a tab, a gap within a line. -/
def IsLineGap (c : Char) : Prop := c = ' ' ∨ c = '\t'

theorem isLineGap_iff (c : Char) : IsLineGap c ↔ isGap c = true ∧ c ≠ '\n' := by
  simp only [IsLineGap, isGap, Bool.or_eq_true, decide_eq_true_eq]
  constructor
  · rintro (rfl | rfl) <;> decide
  · rintro ⟨(h | h) | h, hn⟩
    · exact .inl h
    · exact .inr h
    · exact absurd h hn

/-- A line feed is ahead when only spaces and tabs stand in front of it. -/
theorem lt_feedsAhead_iff (n : Nat) (t : Text) :
    n < feedsAhead t ↔ ∃ a rest, t = a ++ '\n' :: rest ∧ (∀ c ∈ a, IsLineGap c) ∧
      n ≤ feedsAhead rest := by
  induction t with
  | nil => simp
  | cons c t ih =>
    rcases gap_cases c with rfl | ⟨hg, hn⟩ | ⟨hg, hn⟩
    · rw [feedsAhead_newline, Nat.lt_succ_iff]
      constructor
      · exact fun h => ⟨[], t, rfl, by simp, h⟩
      · rintro ⟨a, rest, he, ha, hle⟩
        cases a with
        | nil => simpa [(List.cons.inj he).2] using hle
        | cons d a =>
          have hd := (isLineGap_iff d).mp (ha d List.mem_cons_self)
          exact absurd (List.cons.inj he).1.symm hd.2
    · rw [feedsAhead_space t hg hn, ih]
      constructor
      · rintro ⟨a, rest, rfl, ha, hle⟩
        have hc : IsLineGap c := (isLineGap_iff c).mpr ⟨hg, hn⟩
        exact ⟨c :: a, rest, rfl, List.forall_mem_cons.mpr ⟨hc, ha⟩, hle⟩
      · rintro ⟨a, rest, he, ha, hle⟩
        cases a with
        | nil => exact absurd (List.cons.inj he).1 hn
        | cons d a =>
          exact ⟨a, rest, (List.cons.inj he).2, (List.forall_mem_cons.mp ha).2, hle⟩
    · rw [feedsAhead_solid t hg]
      simp only [Nat.not_lt_zero, false_iff]
      rintro ⟨a, rest, he, ha, -⟩
      cases a with
      | nil => exact hn (List.cons.inj he).1
      | cons d a =>
        have hd := (isLineGap_iff d).mp (ha d List.mem_cons_self)
        rw [← (List.cons.inj he).1, hg] at hd
        exact Bool.false_ne_true hd.1

/-! ## Runs -/

/-- Somewhere a line feed is followed by two further ones with only spaces and tabs between. -/
def HasBlankRun (t : Text) : Prop :=
  ∃ before a b after, t = before ++ '\n' :: a ++ '\n' :: b ++ '\n' :: after ∧
    (∀ c ∈ a, IsLineGap c) ∧ ∀ c ∈ b, IsLineGap c

/-- A run begins at a line feed with two more ahead. -/
theorem hasBlankRun_iff (t : Text) :
    HasBlankRun t ↔ ∃ before rest, t = before ++ '\n' :: rest ∧ 2 ≤ feedsAhead rest := by
  constructor
  · rintro ⟨before, a, b, after, rfl, ha, hb⟩
    refine ⟨before, a ++ '\n' :: (b ++ '\n' :: after), by simp, ?_⟩
    have hlast : 0 < feedsAhead (b ++ '\n' :: after) :=
      (lt_feedsAhead_iff 0 _).mpr ⟨b, after, rfl, hb, Nat.zero_le _⟩
    exact (lt_feedsAhead_iff 1 _).mpr ⟨a, _, rfl, ha, hlast⟩
  · rintro ⟨before, rest, rfl, h⟩
    obtain ⟨a, rest, rfl, ha, hrest⟩ := (lt_feedsAhead_iff 1 _).mp h
    obtain ⟨b, after, rfl, hb, -⟩ := (lt_feedsAhead_iff 0 _).mp hrest
    exact ⟨before, a, b, after, by simp, ha, hb⟩

/-- The first character either begins a run or leaves it to the rest of the text. -/
theorem hasBlankRun_cons (c : Char) (t : Text) :
    HasBlankRun (c :: t) ↔ (c = '\n' ∧ 2 ≤ feedsAhead t) ∨ HasBlankRun t := by
  rw [hasBlankRun_iff, hasBlankRun_iff]
  constructor
  · rintro ⟨before, rest, he, h⟩
    cases before with
    | nil =>
      obtain ⟨rfl, rfl⟩ := List.cons.inj he
      exact .inl ⟨rfl, h⟩
    | cons d before => exact .inr ⟨before, rest, (List.cons.inj he).2, h⟩
  · rintro (⟨rfl, h⟩ | ⟨before, rest, rfl, h⟩)
    · exact ⟨[], t, rfl, h⟩
    · exact ⟨c :: before, rest, rfl, h⟩

theorem not_hasBlankRun_nil : ¬ HasBlankRun [] := by simp [hasBlankRun_iff]

/-- A piece of a text has no runs that the text does not have. -/
theorem HasBlankRun.append {t : Text} (h : HasBlankRun t) (u v : Text) :
    HasBlankRun (u ++ t ++ v) := by
  obtain ⟨before, a, b, after, rfl, ha, hb⟩ := h
  exact ⟨u ++ before, a, b, after ++ v, by simp, ha, hb⟩

/-! ## Collapsing -/

/-- A run begins here: two line feeds stand for it. -/
theorem collapseFrom_run {t : Text} (h : 2 ≤ feedsAhead t) :
    collapseFrom false ('\n' :: t) = '\n' :: '\n' :: collapseFrom true t := by
  simp [collapseFrom, h]

/-- A line feed with less ahead is kept. -/
theorem collapseFrom_newline {t : Text} (h : ¬ 2 ≤ feedsAhead t) :
    collapseFrom false ('\n' :: t) = '\n' :: collapseFrom false t := by
  simp [collapseFrom, h]

/-- Other characters are kept outside a run. -/
theorem collapseFrom_kept {c : Char} (t : Text) (h : c ≠ '\n') :
    collapseFrom false (c :: t) = c :: collapseFrom false t := by
  simp [collapseFrom, h]

/-- A written run ends with its last line feed. -/
theorem collapseFrom_last {t : Text} (h : feedsAhead t = 0) :
    collapseFrom true ('\n' :: t) = collapseFrom false t := by
  simp [collapseFrom, h]

/-- Inside a written run everything up to its last line feed is dropped. -/
theorem collapseFrom_inside {c : Char} {t : Text} (h : c ≠ '\n' ∨ feedsAhead t ≠ 0) :
    collapseFrom true (c :: t) = collapseFrom true t := by
  have hflag : (c != '\n' || feedsAhead t != 0) = true := by simpa using h
  rw [collapseFrom, hflag]

/-- Collapsing keeps at most two of the line feeds ahead; inside a run that is written already it
keeps none. -/
theorem feedsAhead_collapseFrom (t : Text) :
    feedsAhead (collapseFrom false t) = min 2 (feedsAhead t) ∧
      (0 < feedsAhead t → feedsAhead (collapseFrom true t) = 0) := by
  induction t with
  | nil => simp [collapseFrom]
  | cons c t ih =>
    obtain ⟨hoff, hon⟩ := ih
    rcases gap_cases c with rfl | ⟨hg, hn⟩ | ⟨hg, hn⟩
    · constructor
      · by_cases h : 2 ≤ feedsAhead t
        · have hzero := hon (by omega)
          rw [collapseFrom_run h, feedsAhead_newline, feedsAhead_newline, feedsAhead_newline]
          omega
        · rw [collapseFrom_newline h, feedsAhead_newline, feedsAhead_newline]
          omega
      · intro _
        by_cases h : feedsAhead t = 0
        · rw [collapseFrom_last h, hoff, h]
          rfl
        · rw [collapseFrom_inside (.inr h)]
          exact hon (by omega)
    · rw [feedsAhead_space t hg hn, collapseFrom_kept t hn, feedsAhead_space _ hg hn,
        collapseFrom_inside (.inl hn)]
      exact ⟨hoff, hon⟩
    · rw [feedsAhead_solid t hg, collapseFrom_kept t hn, feedsAhead_solid _ hg]
      exact ⟨rfl, fun h => absurd h (Nat.lt_irrefl 0)⟩

/-- No run is left, and none arises behind one that is written already. -/
theorem not_hasBlankRun_collapseFrom (t : Text) :
    ¬ HasBlankRun (collapseFrom false t) ∧
      (0 < feedsAhead t → ¬ HasBlankRun (collapseFrom true t)) := by
  induction t with
  | nil => exact ⟨not_hasBlankRun_nil, fun h => absurd h (Nat.lt_irrefl 0)⟩
  | cons c t ih =>
    obtain ⟨hoff, hon⟩ := ih
    obtain ⟨hkept, hnone⟩ := feedsAhead_collapseFrom t
    rcases gap_cases c with rfl | ⟨hg, hn⟩ | ⟨hg, hn⟩
    · constructor
      · by_cases h : 2 ≤ feedsAhead t
        · have hzero := hnone (by omega)
          rw [collapseFrom_run h, hasBlankRun_cons, hasBlankRun_cons, feedsAhead_newline]
          rintro (⟨-, hf⟩ | ⟨-, hf⟩ | hf)
          · omega
          · omega
          · exact hon (by omega) hf
        · rw [collapseFrom_newline h, hasBlankRun_cons]
          rintro (⟨-, hf⟩ | hf)
          · omega
          · exact hoff hf
      · intro _
        by_cases h : feedsAhead t = 0
        · rw [collapseFrom_last h]
          exact hoff
        · rw [collapseFrom_inside (.inr h)]
          exact hon (by omega)
    · rw [feedsAhead_space t hg hn, collapseFrom_kept t hn, collapseFrom_inside (.inl hn),
        hasBlankRun_cons]
      exact ⟨fun h => h.elim (fun h => hn h.1) hoff, hon⟩
    · rw [feedsAhead_solid t hg, collapseFrom_kept t hn, hasBlankRun_cons]
      exact ⟨fun h => h.elim (fun h => hn h.1) hoff, fun h => absurd h (Nat.lt_irrefl 0)⟩

/-- A text without runs is left alone. -/
theorem collapseBlankLines_eq_self {t : Text} (h : ¬ HasBlankRun t) : collapseBlankLines t = t := by
  rw [collapseBlankLines]
  induction t with
  | nil => rfl
  | cons c t ih =>
    rw [hasBlankRun_cons, not_or, not_and] at h
    have hkept : (c = '\n' && 2 ≤ feedsAhead t) = false := by simpa using h.1
    rw [collapseFrom, hkept, if_neg Bool.false_ne_true, ih h.2]

/-- The first text arises from the second one by deleting line feeds, spaces and tabs. -/
inductive GapsDeleted : Text → Text → Prop where
  /-- Nothing is deleted from nothing. -/
  | nil : GapsDeleted [] []
  /-- A character is kept. -/
  | keep (c : Char) {t u : Text} : GapsDeleted t u → GapsDeleted (c :: t) (c :: u)
  /-- A gap is deleted. -/
  | delete {c : Char} {t u : Text} : isGap c = true → GapsDeleted t u → GapsDeleted t (c :: u)

/-- Collapsing only ever deletes gaps. Inside a run the line feed that has been written stands for
the last one of the run. -/
theorem gapsDeleted_collapseFrom (t : Text) :
    GapsDeleted (collapseFrom false t) t ∧
      (0 < feedsAhead t → GapsDeleted ('\n' :: collapseFrom true t) t) := by
  induction t with
  | nil => exact ⟨.nil, fun h => absurd h (Nat.lt_irrefl 0)⟩
  | cons c t ih =>
    obtain ⟨hoff, hon⟩ := ih
    rcases gap_cases c with rfl | ⟨hg, hn⟩ | ⟨hg, hn⟩
    · constructor
      · by_cases h : 2 ≤ feedsAhead t
        · rw [collapseFrom_run h]
          exact (hon (by omega)).keep '\n'
        · rw [collapseFrom_newline h]
          exact hoff.keep '\n'
      · intro _
        by_cases h : feedsAhead t = 0
        · rw [collapseFrom_last h]
          exact hoff.keep '\n'
        · rw [collapseFrom_inside (.inr h)]
          exact .delete rfl (hon (by omega))
    · rw [feedsAhead_space t hg hn, collapseFrom_kept t hn, collapseFrom_inside (.inl hn)]
      exact ⟨hoff.keep c, fun h => .delete hg (hon h)⟩
    · rw [feedsAhead_solid t hg, collapseFrom_kept t hn]
      exact ⟨hoff.keep c, fun h => absurd h (Nat.lt_irrefl 0)⟩

/-- What is no gap is kept in its order. -/
theorem GapsDeleted.filter_eq {t u : Text} (h : GapsDeleted t u) {p : Char → Bool}
    (hp : ∀ c, isGap c = true → p c = false) : t.filter p = u.filter p := by
  induction h with
  | nil => rfl
  | keep c _ ih => rw [List.filter_cons, List.filter_cons, ih]
  | delete hg _ ih => rw [List.filter_cons, hp _ hg, if_neg Bool.false_ne_true, ih]

/-! ## Settling -/

/-- Settled Markdown has no run of blank lines. -/
theorem not_hasBlankRun_settle (t : Text) : ¬ HasBlankRun (Converter.settle t) := by
  intro h
  obtain ⟨before, after, he, -, -⟩ := exists_append_trim (collapseBlankLines (trim t))
  have hwhole : HasBlankRun (collapseBlankLines (trim t)) := he ▸ h.append before after
  exact (not_hasBlankRun_collapseFrom (trim t)).1 hwhole

/-- Settled Markdown is left alone. -/
theorem settle_settle (t : Text) : Converter.settle (Converter.settle t) = Converter.settle t := by
  have htrim : trim (Converter.settle t) = Converter.settle t := trim_trim _
  rw [Converter.settle, htrim, collapseBlankLines_eq_self (not_hasBlankRun_settle t), htrim]

/-- Whatever the tree and the limit, a converted document is trimmed, has no run of blank lines and
is left alone when it is trimmed, collapsed and trimmed again; and collapsing deletes nothing but
line feeds, spaces and tabs. -/
theorem convertDocument_settled :
    (∀ (c c' : Converter) (nodes : List Node) (t : Text),
      (c.convertDocument nodes).outcome = .ok (t, c') →
        IsTrimmed t ∧ ¬ HasBlankRun t ∧ trim (collapseBlankLines (trim t)) = t) ∧
      ∀ t : Text, GapsDeleted (collapseBlankLines t) t := by
  constructor
  · intro c c' nodes t h
    obtain ⟨-, rfl, -⟩ := (Converter.convertDocument_outcome_iff c c' nodes t).mp h
    exact ⟨isTrimmed_trim _, not_hasBlankRun_settle _, settle_settle _⟩
  · exact fun t => (gapsDeleted_collapseFrom t).1

/-- A preformatted text with a long gap in front of a paragraph: the gap shrinks to one blank
line, the spaces and tabs in it go, and the trailing blanks are trimmed. -/
theorem convertDocument_settled_gap :
    let nodes : List Node := [.element "pre".toList [] [.text .plain "a\n\n \t\n\nb ".toList],
      .element "p".toList [] [.text .plain " c ".toList]]
    let t : Text := "\x60\x60\x60\na\n\nb\n\x60\x60\x60\n\nc".toList
    (Converter.convertDocument ⟨3, false⟩ nodes).outcome = .ok (t, ⟨3, false⟩) ∧
      IsTrimmed t ∧ ¬ HasBlankRun t ∧ trim (collapseBlankLines (trim t)) = t := by
  have h : (Converter.convertDocument ⟨3, false⟩
      [.element "pre".toList [] [.text .plain "a\n\n \t\n\nb ".toList],
        .element "p".toList [] [.text .plain " c ".toList]]).outcome =
      .ok ("\x60\x60\x60\na\n\nb\n\x60\x60\x60\n\nc".toList, ⟨3, false⟩) :=
    (Converter.convertDocument_outcome_iff ..).mpr ⟨by decide, by decide, by decide⟩
  exact ⟨h, convertDocument_settled.1 _ _ _ _ h⟩

end PageMarkdown.Markdown
