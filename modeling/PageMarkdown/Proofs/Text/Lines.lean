import PageMarkdown.Proofs.Text.Blank
import PageMarkdown.Text.Lines

/-!
# Lines and their joins

Every character that ends a line is a blank. A line without breaks is read back
from in front of a line feed, so lines that are joined by line feeds are read
back one by one, however many there are.
-/

namespace PageMarkdown.Text

/-- What ends a line is a blank. -/
theorem isBlank_of_isBreak {c : Char} (h : isBreak c = true) : isBlank c = true := by
  simp only [isBreak, isBlank, Bool.or_eq_true, Bool.and_eq_true, decide_eq_true_eq,
    beq_iff_eq] at h ⊢
  omega

theorem isBreak_of_solid {c : Char} (h : isBlank c = false) : isBreak c = false := by
  by_contra hbreak
  rw [isBlank_of_isBreak (Bool.of_not_eq_false hbreak)] at h
  cases h

/-- A flat text is one line. -/
theorem IsFlat.isBreak_eq_false {t : Text} (h : IsFlat t) : ∀ c ∈ t, isBreak c = false := by
  intro c hc
  cases hb : isBreak c with
  | false => rfl
  | true =>
    have hspace := h.squeezed.spaces c hc (isBlank_of_isBreak hb)
    rw [hspace] at hb
    exact absurd hb (by decide)

/-- A character that ends no line comes to stand in front of the first line. -/
theorem lines_cons {c : Char} (h : isBreak c = false) (t : Text) :
    lines (c :: t) = (c :: (lines t).headD []) :: (lines t).tail := by
  have hr : c ≠ '\r' := by
    rintro rfl
    exact absurd h (by decide)
  rw [lines]
  · simp only [h, Bool.false_eq_true, if_false]
    cases lines t <;> rfl
  · exact fun _ hc => absurd hc hr

/-- A character that ends a line by itself leaves an empty one. -/
theorem lines_cons_break {c : Char} (h : isBreak c = true) (hr : c ≠ '\r') (t : Text) :
    lines (c :: t) = [] :: lines t := by
  rw [lines]
  · rw [if_pos h]
  · exact fun _ hc => absurd hc hr

/-- A line without breaks in front of a line feed is read back. -/
theorem lines_append_newline {line : Text} (h : ∀ c ∈ line, isBreak c = false) (t : Text) :
    lines (line ++ '\n' :: t) = line :: lines t := by
  induction line with
  | nil => exact lines_cons_break (by decide) (by decide) t
  | cons c line ih =>
    obtain ⟨hc, hline⟩ := List.forall_mem_cons.mp h
    rw [List.cons_append, lines_cons hc, ih hline]
    rfl

/-- A text without breaks that is not empty is one line. -/
theorem lines_eq_singleton {line : Text} (h : ∀ c ∈ line, isBreak c = false) (hne : line ≠ []) :
    lines line = [line] := by
  induction line with
  | nil => exact absurd rfl hne
  | cons c line ih =>
    obtain ⟨hc, hline⟩ := List.forall_mem_cons.mp h
    rw [lines_cons hc]
    cases line with
    | nil => rfl
    | cons d line => rw [ih hline (List.cons_ne_nil d line)]; rfl

/-- A joined list of lines goes on behind its first line feed. -/
theorem unlines_cons_cons (line next : Text) (ls : List Text) :
    unlines (line :: next :: ls) = line ++ '\n' :: unlines (next :: ls) := by
  simp [unlines]

/-- Joined lines are read back when each is one line and not empty. -/
theorem lines_unlines {ls : List Text} (hne : ∀ l ∈ ls, l ≠ [])
    (h : ∀ l ∈ ls, ∀ c ∈ l, isBreak c = false) : lines (unlines ls) = ls := by
  induction ls with
  | nil => rfl
  | cons line ls ih =>
    obtain ⟨hline, hls⟩ := List.forall_mem_cons.mp h
    obtain ⟨hfilled, hrest⟩ := List.forall_mem_cons.mp hne
    cases ls with
    | nil => exact (congrArg lines (by simp [unlines])).trans (lines_eq_singleton hline hfilled)
    | cons next ls => rw [unlines_cons_cons, lines_append_newline hline, ih hrest hls]

/-- Lines that end solidly, joined, end solidly. -/
theorem endsSolid_unlines {ls : List Text} (hne : ls ≠ []) (h : ∀ l ∈ ls, EndsSolid l) :
    EndsSolid (unlines ls) := by
  induction ls with
  | nil => exact absurd rfl hne
  | cons line ls ih =>
    obtain ⟨hline, hls⟩ := List.forall_mem_cons.mp h
    cases ls with
    | nil => simpa [unlines] using hline
    | cons next ls =>
      rw [unlines_cons_cons]
      exact ((ih (List.cons_ne_nil next ls) hls).cons '\n').append line

/-- Joined lines begin as the first one does. -/
theorem startsSolid_unlines {line : Text} (h : StartsSolid line) (ls : List Text) :
    StartsSolid (unlines (line :: ls)) := by
  cases ls with
  | nil => simpa [unlines] using h
  | cons next ls =>
    rw [unlines_cons_cons]
    exact h.append _

/-! ## Lines that are not blank -/

/-- The lines of a text that are not blank, in order. -/
def filledLines (t : Text) : List Text := (lines t).filter fun line => !isAllBlank line

@[simp] theorem filledLines_nil : filledLines [] = [] := rfl

/-- A line feed ends the last line of what stands before it, or an empty one. -/
theorem lines_append_feed (t u : Text) :
    ∃ front, lines (t ++ '\n' :: u) = front ++ lines u ∧
      ((front = lines t ∧ front ≠ []) ∨ front = lines t ++ [[]]) := by
  fun_induction lines t with
  | case1 => exact ⟨[[]], lines_cons_break (by decide) (by decide) u, .inr rfl⟩
  | case2 rest ih =>
    obtain ⟨front, hfront, hends⟩ := ih
    refine ⟨[] :: front, ?_, ?_⟩
    · rw [List.cons_append, List.cons_append, lines, hfront]
      rfl
    · rcases hends with ⟨rfl, -⟩ | rfl
      · exact .inl ⟨rfl, List.cons_ne_nil _ _⟩
      · exact .inr rfl
  | case3 c rest hpair hbreak ih =>
    by_cases hr : c = '\r' ∧ rest = []
    · -- The return and the feed behind it are one break.
      obtain ⟨rfl, rfl⟩ := hr
      exact ⟨[[]], by rw [List.singleton_append, lines]; rfl, .inl ⟨rfl, List.cons_ne_nil _ _⟩⟩
    · obtain ⟨front, hfront, hends⟩ := ih
      have hcons : lines (c :: (rest ++ '\n' :: u)) = [] :: lines (rest ++ '\n' :: u) := by
        rw [lines]
        · rw [if_pos hbreak]
        · intro t hc ht
          cases rest with
          | nil => exact hr ⟨hc, rfl⟩
          | cons d rest => exact hpair rest hc (by rw [(List.cons.inj ht).1])
      refine ⟨[] :: front, by rw [List.cons_append, hcons, hfront]; rfl, ?_⟩
      rcases hends with ⟨rfl, -⟩ | rfl
      · exact .inl ⟨rfl, List.cons_ne_nil _ _⟩
      · exact .inr rfl
  | case4 c rest hpair hbreak ih =>
    obtain ⟨front, hfront, hends⟩ := ih
    rw [List.cons_append, lines_cons (Bool.of_not_eq_true hbreak), hfront]
    cases hrest : lines rest with
    | nil =>
      rw [hrest] at hends
      obtain rfl : front = [[]] := hends.resolve_left fun h => h.2 h.1
      exact ⟨[[c]], rfl, .inl ⟨rfl, List.cons_ne_nil _ _⟩⟩
    | cons line others =>
      rw [hrest] at hends
      rcases hends with ⟨rfl, -⟩ | rfl
      · exact ⟨(c :: line) :: others, rfl, .inl ⟨rfl, List.cons_ne_nil _ _⟩⟩
      · exact ⟨((c :: line) :: others) ++ [[]], rfl, .inr rfl⟩

/-- A line feed separates lines: the filled ones before it and those behind it do not meet. All that
is said about filled lines follows from this equation. -/
theorem filledLines_append_feed (t u : Text) :
    filledLines (t ++ '\n' :: u) = filledLines t ++ filledLines u := by
  obtain ⟨front, hlines, hfront⟩ := lines_append_feed t u
  rw [filledLines, hlines, List.filter_append]
  congr 1
  rcases hfront with ⟨rfl, -⟩ | rfl
  · rfl
  · rw [List.filter_append]
    exact List.append_nil _

theorem filledLines_cons_feed (t : Text) : filledLines ('\n' :: t) = filledLines t :=
  filledLines_append_feed [] t

/-- The characters of a line are characters of the text, and none of them ends a line. -/
theorem mem_of_mem_lines {t line : Text} (hline : line ∈ lines t) :
    ∀ c ∈ line, c ∈ t ∧ isBreak c = false := by
  fun_induction lines t generalizing line with
  | case1 => cases hline
  | case2 rest ih =>
    intro c hc
    rcases List.mem_cons.mp hline with rfl | hline
    · cases hc
    · obtain ⟨hmem, hbreak⟩ := ih hline c hc
      exact ⟨List.mem_cons_of_mem _ (List.mem_cons_of_mem _ hmem), hbreak⟩
  | case3 d rest _ _ ih =>
    intro c hc
    rcases List.mem_cons.mp hline with rfl | hline
    · cases hc
    · obtain ⟨hmem, hbreak⟩ := ih hline c hc
      exact ⟨List.mem_cons_of_mem _ hmem, hbreak⟩
  | case4 d rest _ hd ih =>
    have hd : isBreak d = false := Bool.of_not_eq_true hd
    intro c hc
    cases hrest : lines rest with
    | nil =>
      rw [hrest] at hline
      obtain rfl : line = [d] := List.mem_singleton.mp hline
      obtain rfl : c = d := List.mem_singleton.mp hc
      exact ⟨List.mem_cons_self, hd⟩
    | cons first others =>
      rw [hrest] at hline ih
      rcases List.mem_cons.mp hline with rfl | hline
      · rcases List.mem_cons.mp hc with rfl | hc
        · exact ⟨List.mem_cons_self, hd⟩
        · obtain ⟨hmem, hbreak⟩ := ih List.mem_cons_self c hc
          exact ⟨List.mem_cons_of_mem _ hmem, hbreak⟩
      · obtain ⟨hmem, hbreak⟩ := ih (List.mem_cons_of_mem _ hline) c hc
        exact ⟨List.mem_cons_of_mem _ hmem, hbreak⟩

/-- Blanks have no filled lines. -/
theorem filledLines_of_blank {t : Text} (h : ∀ c ∈ t, isBlank c = true) : filledLines t = [] := by
  rw [filledLines, List.filter_eq_nil_iff]
  intro line hline
  have hblank : isAllBlank line = true :=
    List.all_eq_true.mpr fun c hc => h c (mem_of_mem_lines hline c hc).1
  rw [hblank]
  exact Bool.false_ne_true

/-- A filled line is not blank and has no breaks. -/
theorem of_mem_filledLines {t line : Text} (h : line ∈ filledLines t) :
    isAllBlank line = false ∧ ∀ c ∈ line, isBreak c = false := by
  obtain ⟨hline, hfilled⟩ := List.mem_filter.mp h
  exact ⟨by simpa using hfilled, fun c hc => (mem_of_mem_lines hline c hc).2⟩

/-- Filled lines without breaks are read back from their join. -/
theorem filledLines_unlines {ls : List Text} (hfilled : ∀ l ∈ ls, isAllBlank l = false)
    (h : ∀ l ∈ ls, ∀ c ∈ l, isBreak c = false) : filledLines (unlines ls) = ls := by
  have hne : ∀ l ∈ ls, l ≠ [] := by
    rintro l hl rfl
    cases hfilled [] hl
  rw [filledLines, lines_unlines hne h, List.filter_eq_self]
  intro l hl
  rw [hfilled l hl]
  rfl

/-- One filled line is its only line. -/
theorem filledLines_line {line : Text} (hline : isAllBlank line = false)
    (hbreak : ∀ c ∈ line, isBreak c = false) : filledLines line = [line] := by
  have hlines := filledLines_unlines (List.forall_mem_singleton.mpr hline)
    (List.forall_mem_singleton.mpr hbreak)
  simpa [unlines] using hlines

/-- A text that begins solidly begins with a filled line. -/
theorem StartsSolid.lines_eq {t : Text} (h : StartsSolid t) :
    ∃ first rest, lines t = first :: rest ∧ StartsSolid first := by
  obtain ⟨c, hc, hb⟩ := h
  cases t with
  | nil => cases hc
  | cons d t =>
    obtain rfl : d = c := Option.some.inj hc
    exact ⟨_, _, lines_cons (isBreak_of_solid hb) t, startsSolid_cons hb _⟩

theorem isAllBlank_unifyBreaks (t : Text) : isAllBlank (unifyBreaks t) = isAllBlank t := by
  fun_induction unifyBreaks t with
  | case1 => rfl
  | case2 t ih => exact ih
  | case3 c t _ ih =>
    rw [isAllBlank_cons, isAllBlank_cons, ih]
    split
    · rename_i hc
      rw [hc]
      rfl
    · rfl

end PageMarkdown.Text
