import PageMarkdown.Proofs.Blocks

/-!
# Lines of an outline

An entry of an outline is written on one line: its indentation, its bullet and its
label. Wherever such lines stand inside an item, they are the filled lines of its
content behind the label, and indenting them again changes nothing: each is
recognised as an item and is as deep as it has to be.
-/

namespace PageMarkdown.Markdown

open Text

/-! ## Entries -/

/-- A line of an outline. -/
structure OutlineEntry where
  /-- How many lists are around the list of the entry. -/
  depth : Nat
  /-- The number of the entry, in a numbered list. -/
  number : Option Nat
  /-- What the entry says. -/
  label : Text
  deriving DecidableEq, Repr

namespace OutlineEntry

/-- The number of the entry with a point, or a dash. -/
def bullet (e : OutlineEntry) : Text :=
  match e.number with
  | some number => ofNat number ++ ['.']
  | none => ['-']

/-- Two spaces for each level, the bullet, a space and the label. -/
def line (e : OutlineEntry) : Text :=
  List.replicate (2 * e.depth) ' ' ++ (e.bullet ++ ' ' :: e.label)

end OutlineEntry

/-! ## Lines that are indented again -/

/-- An ASCII digit is a decimal digit. -/
theorem isDecimalDigit_of_isDigit {c : Char} (h : c.isDigit = true) :
    DecimalDigit.isDigit c = true := by
  have hdigit : 48 ≤ c.toNat ∧ c.toNat ≤ 57 := Char.isDigit_iff_toNat.mp h
  rw [DecimalDigit.isDigit, DecimalDigit.value?, Option.isSome_map, List.find?_isSome]
  exact ⟨0x30, List.mem_cons_self, by simpa using hdigit⟩

namespace OutlineEntry

/-- The bullet begins with what no space is. -/
theorem startsSolid_bullet (e : OutlineEntry) : StartsSolid e.bullet := by
  rw [bullet]
  split
  · exact (startsSolid_ofNat _).append ['.']
  · exact startsSolid_cons rfl _

/-- An entry whose label has no break in it stands on one line. -/
theorem isBreak_line (e : OutlineEntry) (h : ∀ c ∈ e.label, isBreak c = false) :
    ∀ c ∈ e.line, isBreak c = false := by
  have hbullet : ∀ c ∈ e.bullet, isBreak c = false := by
    intro c hc
    rw [bullet] at hc
    split at hc
    · rcases List.mem_append.mp hc with hc | hc
      · exact isBreak_of_solid
          (isBlank_of_isDigit (Nat.isDigit_of_mem_toDigits (by decide) (by decide) hc))
      · obtain rfl := List.mem_singleton.mp hc
        rfl
    · obtain rfl := List.mem_singleton.mp hc
      rfl
  intro c hc
  simp only [line, List.mem_append, List.mem_cons, List.mem_replicate] at hc
  rcases hc with ⟨-, rfl⟩ | hc | rfl | hc
  · rfl
  · exact hbullet c hc
  · rfl
  · exact h c hc

/-- The entry is at least so deep, and its label is filled and stands on one line. -/
structure IsProper (least : Nat) (e : OutlineEntry) : Prop where
  /-- The entry is at least so deep. -/
  deep : least ≤ e.depth
  /-- The label stands on one line. -/
  flat : IsFlat e.label
  /-- There is a label. -/
  filled : e.label ≠ []

variable {least : Nat} {e : OutlineEntry}

theorem IsProper.isSolid (h : e.IsProper least) : IsSolid (e.bullet ++ ' ' :: e.label) :=
  ⟨e.startsSolid_bullet.append _, ((h.flat.trimmed.isSolid h.filled).ends.cons ' ').append _⟩

theorem IsProper.endsSolid_line (h : e.IsProper least) : EndsSolid e.line :=
  h.isSolid.ends.append _

/-- A line of an outline has no break in it. -/
theorem IsProper.isBreak_line (h : e.IsProper least) : ∀ c ∈ e.line, isBreak c = false :=
  e.isBreak_line h.flat.isBreak_eq_false

/-- The spaces in front of a line of an outline are its indentation. -/
theorem span_line (e : OutlineEntry) :
    e.line.takeWhile (· = ' ') = List.replicate (2 * e.depth) ' ' ∧
      e.line.dropWhile (· = ' ') = e.bullet ++ ' ' :: e.label := by
  obtain ⟨c, hc, hb⟩ := e.startsSolid_bullet
  obtain ⟨rest, hrest⟩ := List.head?_eq_some_iff.mp hc
  have hspace : c ≠ ' ' := by
    rintro rfl
    cases hb
  have hspaces : ∀ d ∈ List.replicate (2 * e.depth) ' ', decide (d = ' ') = true := by
    intro d hd
    simpa using (List.mem_replicate.mp hd).2
  rw [line, hrest, List.takeWhile_append_of_pos hspaces, List.dropWhile_append_of_pos hspaces]
  simp [hspace]

theorem leadingSpaces_line (e : OutlineEntry) : leadingSpaces e.line = 2 * e.depth := by
  rw [leadingSpaces, e.span_line.1, List.length_replicate]

/-- A line of an outline is recognised as an item. -/
theorem isItemLine_line (e : OutlineEntry) : isItemLine e.line = true := by
  refine (isItemLine_iff _).mpr ⟨2 * e.depth, e.bullet, e.label, rfl, ?_⟩
  rw [bullet]
  cases e.number with
  | none => exact .inl rfl
  | some number =>
    refine .inr ⟨ofNat number, Nat.toDigits_ne_nil, fun c hc => ?_, rfl⟩
    exact isDecimalDigit_of_isDigit (Nat.isDigit_of_mem_toDigits (by decide) (by decide) hc)

/-- Continuing an item leaves the lines of an outline below it alone. -/
theorem IsProper.continuationLine_eq (h : e.IsProper least) :
    continuationLine (2 * least) e.line = e.line := by
  have hspaces : ∀ c ∈ List.replicate (2 * e.depth) ' ', isBlank c = true := by
    intro c hc
    rw [(List.mem_replicate.mp hc).2]
    rfl
  have htrim : trim e.line = e.bullet ++ ' ' :: e.label := by
    have hwhole := h.isSolid.isTrimmed.trim_append hspaces (by simp : ∀ c ∈ ([] : Text), _)
    rwa [List.append_nil] at hwhole
  have hdepth : max (2 * least) (2 * e.depth) = 2 * e.depth := by
    have hdeep := h.deep
    omega
  simp only [continuationLine, e.isItemLine_line, if_pos, e.span_line.1, List.length_replicate,
    hdepth, htrim]
  rfl

end OutlineEntry

/-- The lines of proper entries end solidly and have no break in them. -/
theorem forall_mem_lines {least : Nat} {entries : List OutlineEntry}
    (h : ∀ e ∈ entries, e.IsProper least) :
    ∀ l ∈ entries.map OutlineEntry.line, EndsSolid l ∧ ∀ c ∈ l, isBreak c = false := by
  intro l hl
  obtain ⟨e, he, rfl⟩ := List.mem_map.mp hl
  exact ⟨(h e he).endsSolid_line, (h e he).isBreak_line⟩

/-- Joined filled lines have no run of blank lines. -/
theorem not_hasBlankRun_unlines {ls : List Text} (hfilled : ∀ l ∈ ls, isAllBlank l = false)
    (hbreak : ∀ l ∈ ls, ∀ c ∈ l, isBreak c = false) : ¬ HasBlankRun (unlines ls) := by
  rintro ⟨before, a, b, after, he, ha, -⟩
  have hgap : ∀ c ∈ a, isBlank c = true ∧ isBreak c = false := by
    intro c hc
    rcases ha c hc with rfl | rfl <;> decide
  have hne : ∀ l ∈ ls, l ≠ [] := by
    rintro l hl rfl
    cases hfilled [] hl
  have hwhole : unlines ls = before ++ '\n' :: (a ++ '\n' :: (b ++ '\n' :: after)) := by
    simpa using he
  obtain ⟨front, hlines, -⟩ := lines_append_feed before (a ++ '\n' :: (b ++ '\n' :: after))
  rw [← hwhole, lines_unlines hne hbreak, lines_append_newline fun c hc => (hgap c hc).2]
    at hlines
  have hmem : a ∈ ls := by
    rw [hlines]
    simp
  have hblank : isAllBlank a = true := List.all_eq_true.mpr fun c hc => (hgap c hc).1
  rw [hfilled a hmem] at hblank
  cases hblank

/-! ## Lines behind a label -/

/-- A gap behind one line pads it at most. -/
theorem filledLines_append_gap {line gap : Text} (hline : isAllBlank line = false)
    (hbreak : ∀ c ∈ line, isBreak c = false) (hgap : ∀ c ∈ gap, isGap c = true) :
    ∃ pad, (∀ c ∈ pad, isBlank c = true) ∧ filledLines (line ++ gap) = [line ++ pad] := by
  induction gap generalizing line with
  | nil => exact ⟨[], by simp, by simpa using filledLines_line hline hbreak⟩
  | cons c gap ih =>
    obtain ⟨hc, hgap⟩ := List.forall_mem_cons.mp hgap
    by_cases hn : c = '\n'
    · refine ⟨[], by simp, ?_⟩
      rw [hn, filledLines_append_feed, filledLines_line hline hbreak,
        filledLines_of_blank fun d hd => isBlank_of_isGap (hgap d hd), List.append_nil,
        List.append_nil]
    · have hspace : isBreak c = false := by
        rcases (isLineGap_iff c).mpr ⟨hc, hn⟩ with rfl | rfl <;> decide
      have hpadded : isAllBlank (line ++ [c]) = false := by
        rw [isAllBlank, List.all_append]
        rw [isAllBlank] at hline
        rw [hline, Bool.false_and]
      obtain ⟨pad, hpad, hlines⟩ := ih hpadded
        (List.forall_mem_append.mpr ⟨hbreak, List.forall_mem_singleton.mpr hspace⟩) hgap
      refine ⟨c :: pad, List.forall_mem_cons.mpr ⟨isBlank_of_isGap hc, hpad⟩, ?_⟩
      simpa using hlines

namespace Spaced

variable {contents : List Text} {t : Text}

/-- Behind a line feed the filled lines are those of the contents. -/
theorem filledLines_behind_feed (h : Spaced contents t)
    (hends : ∀ content ∈ contents, EndsSolid content) {before gap : Text}
    (hbefore : EndsSolid before) (hgap : ∀ c ∈ gap, isGap c = true) :
    filledLines (trimRight (before ++ '\n' :: (gap ++ t))) =
      filledLines before ++ contents.flatMap filledLines := by
  -- The gap takes up the second line feed behind each block that is passed.
  induction h generalizing before gap with
  | @gap own hown =>
    rw [hbefore.trimRight_append]
    · simp
    · intro c hc
      simp only [List.mem_cons, List.mem_append] at hc
      rcases hc with rfl | hc | hc
      · rfl
      · exact isBlank_of_isGap (hgap c hc)
      · exact isBlank_of_isGap (hown c hc)
  | @block own content contents t hown h ih =>
    obtain ⟨hcontent, hcontents⟩ := List.forall_mem_cons.mp hends
    have hblank : filledLines (gap ++ own) = [] := by
      refine filledLines_of_blank fun c hc => isBlank_of_isGap ?_
      exact (List.mem_append.mp hc).elim (hgap c) (hown c)
    have hwhole : before ++ '\n' :: (gap ++ (own ++ '\n' :: '\n' :: content ++ '\n' :: '\n' :: t)) =
        (before ++ '\n' :: (gap ++ own ++ '\n' :: '\n' :: content)) ++ '\n' :: (['\n'] ++ t) := by
      simp
    rw [hwhole, ih hcontents ((((hcontent.cons '\n').cons '\n').append _).cons '\n' |>.append _)
      (by simp [isGap]), filledLines_append_feed, filledLines_append_feed, filledLines_cons_feed,
      hblank]
    simp

/-- Behind one line the filled lines are those of the contents; the line itself may be padded. -/
theorem filledLines_behind_line (h : Spaced contents t)
    (hends : ∀ content ∈ contents, EndsSolid content) {line : Text} (hline : EndsSolid line)
    (hbreak : ∀ c ∈ line, isBreak c = false) :
    ∃ pad, (∀ c ∈ pad, isBlank c = true) ∧
      filledLines (trimRight (line ++ t)) = (line ++ pad) :: contents.flatMap filledLines := by
  have hfilled := hline.isAllBlank_eq_false
  cases h with
  | gap hgap =>
    refine ⟨[], by simp, ?_⟩
    rw [hline.trimRight_append fun c hc => isBlank_of_isGap (hgap c hc),
      filledLines_line hfilled hbreak]
    simp
  | @block gap content contents t hgap h =>
    obtain ⟨hcontent, hcontents⟩ := List.forall_mem_cons.mp hends
    obtain ⟨pad, hpad, hlines⟩ := filledLines_append_gap hfilled hbreak hgap
    have hwhole : line ++ (gap ++ '\n' :: '\n' :: content ++ '\n' :: '\n' :: t) =
        (line ++ gap ++ '\n' :: '\n' :: content) ++ '\n' :: (['\n'] ++ t) := by
      simp
    refine ⟨pad, hpad, ?_⟩
    rw [hwhole, h.filledLines_behind_feed hcontents (((hcontent.cons '\n').cons '\n').append _)
      (by simp [isGap]), filledLines_append_feed, filledLines_cons_feed, hlines]
    simp

end Spaced

end PageMarkdown.Markdown
