import PageMarkdown.Proofs.Text.Lines

/-!
# How a text is laid out on lines

What matters of a text for its lines is where its line breaks stand between its
solid characters: those in front of the first one, those behind the last one, and
the widest run of them between two neighbours. The layout of two joined texts comes
from the layouts of both, so it can be computed along whatever a text is joined
from. A blank line inside a trimmed text is a run of two line feeds.
-/

namespace PageMarkdown.Text

/-! ## Line breaks -/

/-- The line breaks in a run of blanks. -/
@[ext]
structure Breaks where
  /-- The number of line feeds. -/
  feeds : Nat
  /-- Some character ends a line, be it a line feed or a rarer break. -/
  any : Bool
  deriving DecidableEq, Repr

namespace Breaks

instance : Zero Breaks := ⟨0, false⟩

/-- The breaks of one run behind another. -/
instance : Add Breaks := ⟨fun a b => ⟨a.feeds + b.feeds, a.any || b.any⟩⟩

/-- The breaks of the wider one of two runs that lie apart. -/
instance : Max Breaks := ⟨fun a b => ⟨max a.feeds b.feeds, a.any || b.any⟩⟩

@[simp] theorem feeds_zero : (0 : Breaks).feeds = 0 := rfl

@[simp] theorem any_zero : (0 : Breaks).any = false := rfl

@[simp] theorem feeds_add (a b : Breaks) : (a + b).feeds = a.feeds + b.feeds := rfl

@[simp] theorem any_add (a b : Breaks) : (a + b).any = (a.any || b.any) := rfl

@[simp] theorem feeds_max (a b : Breaks) : (max a b).feeds = max a.feeds b.feeds := rfl

@[simp] theorem any_max (a b : Breaks) : (max a b).any = (a.any || b.any) := rfl

@[simp] theorem zero_add (a : Breaks) : 0 + a = a := by ext <;> simp

@[simp] theorem add_zero (a : Breaks) : a + 0 = a := by ext <;> simp

@[simp] theorem zero_max (a : Breaks) : max 0 a = a := by ext <;> simp

@[simp] theorem max_zero (a : Breaks) : max a 0 = a := by ext <;> simp

theorem add_assoc (a b c : Breaks) : a + b + c = a + (b + c) := by
  ext <;> simp [Nat.add_assoc, Bool.or_assoc]

theorem max_assoc (a b c : Breaks) : max (max a b) c = max a (max b c) := by
  ext <;> simp [Nat.max_assoc, Bool.or_assoc]

/-- The wider of two runs has so many line feeds when one of them does. -/
theorem le_feeds_max (n : Nat) (a b : Breaks) :
    n ≤ (max a b).feeds ↔ n ≤ a.feeds ∨ n ≤ b.feeds := by
  rw [feeds_max]
  omega

/-- The breaks of blanks. -/
def of (t : Text) : Breaks := ⟨t.count '\n', t.any isBreak⟩

/-- The break of one line feed. -/
def feed : Breaks := ⟨1, true⟩

theorem of_append (t u : Text) : of (t ++ u) = of t + of u := by
  ext <;> simp [of, List.count_append, List.any_append]

/-- Blanks without line breaks. -/
theorem of_eq_zero {t : Text} (h : ∀ c ∈ t, isBreak c = false) : of t = 0 := by
  have hfeed : '\n' ∉ t := fun hmem => absurd (h '\n' hmem) (by decide)
  have hany : t.any isBreak = false := by simpa using h
  rw [of, List.count_eq_zero.mpr hfeed, hany]
  rfl

end Breaks

/-! ## Layouts -/

/-- How a text is laid out on lines. -/
inductive Layout where
  /-- There are only blanks, with these line breaks. -/
  | bare (breaks : Breaks)
  /-- There are solid characters: the line breaks in front of them, the widest run of line breaks
  between two neighbours, and the line breaks behind them. -/
  | inked (before inside after : Breaks)
  deriving DecidableEq, Repr

namespace Layout

/-- The layout of one text behind another. -/
def append : Layout → Layout → Layout
  | bare a, bare b => bare (a + b)
  | bare a, inked b inside after => inked (a + b) inside after
  | inked before inside a, bare b => inked before inside (a + b)
  | inked before inside a, inked b inside' after =>
    inked before (max (max inside (a + b)) inside') after

instance : Append Layout := ⟨append⟩

/-- The layout of one character. -/
def ofChar (c : Char) : Layout := if isBlank c then bare (.of [c]) else inked 0 0 0

/-- The layout of a text. -/
def of : Text → Layout
  | [] => bare 0
  | c :: t => ofChar c ++ of t

/-- The layout that is made of what is inside; from blanks nothing is made. -/
def fromInside (make : Breaks → Layout) : Layout → Layout
  | bare _ => bare 0
  | inked _ inside _ => make inside

/-- The layout without the line breaks at its ends. -/
def core : Layout → Layout := fromInside fun inside => inked 0 inside 0

/-- There are only blanks. -/
def isBare : Layout → Bool
  | bare _ => true
  | inked _ _ _ => false

@[simp] theorem bare_append_bare (a b : Breaks) : bare a ++ bare b = bare (a + b) := rfl

@[simp] theorem bare_append_inked (a b inside after : Breaks) :
    bare a ++ inked b inside after = inked (a + b) inside after := rfl

@[simp] theorem inked_append_bare (before inside a b : Breaks) :
    inked before inside a ++ bare b = inked before inside (a + b) := rfl

@[simp] theorem inked_append_inked (before inside a b inside' after : Breaks) :
    inked before inside a ++ inked b inside' after =
      inked before (max (max inside (a + b)) inside') after := rfl

@[simp] theorem bare_zero_append (l : Layout) : bare 0 ++ l = l := by cases l <;> simp

theorem append_assoc (l m n : Layout) : l ++ m ++ n = l ++ (m ++ n) := by
  cases l <;> cases m <;> cases n <;> simp [Breaks.add_assoc, Breaks.max_assoc]

/-- The layout of joined texts. -/
theorem of_append (t u : Text) : of (t ++ u) = of t ++ of u := by
  induction t with
  | nil => exact (bare_zero_append _).symm
  | cons c t ih => rw [List.cons_append, of, ih, of, append_assoc]

theorem of_cons (c : Char) (t : Text) : of (c :: t) = ofChar c ++ of t := rfl

/-- A solid character is laid out without line breaks. -/
theorem ofChar_solid {c : Char} (h : isBlank c = false) : ofChar c = inked 0 0 0 := by
  rw [ofChar, h, if_neg Bool.false_ne_true]

/-- Blanks are laid out by their line breaks. -/
theorem of_blank {t : Text} (h : ∀ c ∈ t, isBlank c = true) : of t = bare (.of t) := by
  induction t with
  | nil => rfl
  | cons c t ih =>
    obtain ⟨hc, ht⟩ := List.forall_mem_cons.mp h
    rw [of_cons, ofChar, if_pos hc, ih ht, bare_append_bare, ← Breaks.of_append]
    rfl

/-- A text with a solid start has no line breaks in front. -/
theorem of_startsSolid {t : Text} (h : StartsSolid t) : ∃ inside after,
    of t = inked 0 inside after := by
  obtain ⟨c, hc, hb⟩ := h
  obtain ⟨t, rfl⟩ := List.head?_eq_some_iff.mp hc
  rw [of_cons, ofChar_solid hb]
  cases of t with
  | bare breaks => exact ⟨_, _, rfl⟩
  | inked before inside after => exact ⟨_, _, rfl⟩

/-- A text with a solid end has no line breaks behind. -/
theorem of_endsSolid {t : Text} (h : EndsSolid t) : ∃ before inside,
    of t = inked before inside 0 := by
  obtain ⟨c, hc, hb⟩ := h
  obtain ⟨t, rfl⟩ := List.getLast?_eq_some_iff.mp hc
  rw [of_append, of_cons, ofChar_solid hb]
  cases of t with
  | bare breaks => exact ⟨_, _, rfl⟩
  | inked before inside after => exact ⟨_, _, rfl⟩

theorem of_isSolid {t : Text} (h : IsSolid t) : ∃ inside, of t = inked 0 inside 0 := by
  obtain ⟨inside, after, hstart⟩ := of_startsSolid h.starts
  obtain ⟨before, inside', hend⟩ := of_endsSolid h.ends
  rw [hstart] at hend
  cases hend
  exact ⟨inside, hstart⟩

/-- Blanks around a solid text are its line breaks at the ends. -/
theorem of_around {before t after : Text} (hbefore : ∀ c ∈ before, isBlank c = true)
    (hafter : ∀ c ∈ after, isBlank c = true) {inside : Breaks} (ht : of t = inked 0 inside 0) :
    of (before ++ t ++ after) = inked (.of before) inside (.of after) := by
  rw [of_append, of_append, of_blank hbefore, of_blank hafter, ht]
  simp

/-- A layout is bare exactly when the text is blank. -/
theorem isBare_of (t : Text) : (of t).isBare = isAllBlank t := by
  cases hblank : isAllBlank t with
  | true => rw [of_blank (List.all_eq_true.mp hblank)]; rfl
  | false =>
    obtain ⟨before, after, ht, hbefore, hafter⟩ := exists_append_trim t
    obtain ⟨inside, hinside⟩ := of_isSolid (isSolid_trim hblank)
    rw [ht, of_around hbefore hafter hinside]
    rfl

/-- Trimming a text takes the line breaks at its ends away. -/
theorem of_trim (t : Text) : of (trim t) = (of t).core := by
  cases hblank : isAllBlank t with
  | true =>
    rw [(trim_eq_nil_iff t).mpr hblank, of_blank (List.all_eq_true.mp hblank)]
    rfl
  | false =>
    obtain ⟨before, after, ht, hbefore, hafter⟩ := exists_append_trim t
    obtain ⟨inside, hinside⟩ := of_isSolid (isSolid_trim hblank)
    conv => rhs; rw [ht, of_around hbefore hafter hinside]
    exact hinside

/-- Trimming the end of a text takes the line breaks there away. -/
theorem of_trimRight {t : Text} {before inside after : Breaks}
    (h : of t = inked before inside after) : of (trimRight t) = inked before inside 0 := by
  have hfilled : isAllBlank t = false := by rw [← isBare_of, h]; rfl
  obtain ⟨before', inside', hends⟩ := of_endsSolid (endsSolid_trimRight hfilled)
  obtain ⟨gap, ht, hgap⟩ := exists_append_trimRight t
  rw [ht, of_append, of_blank hgap, hends, inked_append_bare] at h
  obtain ⟨rfl, rfl, -⟩ := inked.inj h
  exact hends

/-! ## Line feeds -/

/-- The layout has no line feed anywhere. -/
def FeedFree : Layout → Prop
  | bare breaks => breaks.feeds = 0
  | inked before inside after => before.feeds = 0 ∧ inside.feeds = 0 ∧ after.feeds = 0

theorem FeedFree.core {l : Layout} (h : l.FeedFree) : l.core.FeedFree := by
  cases l with
  | bare breaks => exact rfl
  | inked before inside after => exact ⟨rfl, h.2.1, rfl⟩

theorem feedFree_append_iff (l m : Layout) : (l ++ m).FeedFree ↔ l.FeedFree ∧ m.FeedFree := by
  cases l <;> cases m <;> simp only [bare_append_bare, bare_append_inked, inked_append_bare,
    inked_append_inked, FeedFree, Breaks.feeds_add, Breaks.feeds_max] <;> omega

/-- The layout of a text has no line feed exactly when the text has none. -/
theorem feedFree_of_iff (t : Text) : (of t).FeedFree ↔ '\n' ∉ t := by
  induction t with
  | nil => exact iff_of_true rfl List.not_mem_nil
  | cons c t ih =>
    rw [of_cons, feedFree_append_iff, ih, List.mem_cons, not_or]
    refine and_congr_left fun _ => ?_
    rw [ofChar]
    by_cases hc : '\n' = c
    · subst hc
      exact iff_of_false Nat.one_ne_zero (not_not_intro rfl)
    · refine iff_of_true ?_ hc
      split
      · exact List.count_eq_zero.mpr (by simpa using hc)
      · exact ⟨rfl, rfl, rfl⟩

/-! ## What is inside -/

/-- Between two neighbouring solid characters of the text stands a run of blanks whose line breaks
have a property. -/
def HasInside (P : Breaks → Prop) (t : Text) : Prop :=
  ∃ before gap after, t = before ++ gap ++ after ∧ EndsSolid before ∧ StartsSolid after ∧
    (∀ c ∈ gap, isBlank c = true) ∧ P (.of gap)

/-- The first solid character of a text stands behind the line breaks in front. -/
theorem exists_of_inked {t : Text} {before inside after : Breaks}
    (h : of t = inked before inside after) :
    ∃ gap rest, t = gap ++ rest ∧ (∀ c ∈ gap, isBlank c = true) ∧ StartsSolid rest ∧
      .of gap = before := by
  have hfilled : isAllBlank t = false := by rw [← isBare_of, h]; rfl
  have hstart := startsSolid_trimLeft hfilled
  obtain ⟨gap, ht, hgap⟩ := exists_append_trimLeft t
  obtain ⟨inside', after', hrest⟩ := of_startsSolid hstart
  refine ⟨gap, trimLeft t, ht, hgap, hstart, ?_⟩
  rw [ht, of_append, of_blank hgap, hrest] at h
  simpa using (inked.inj h).1

/-- The widest run inside a text has a property of runs exactly when some run inside has it, when
the wider of two runs has it exactly when one of them does. -/
theorem hasInside_iff {P : Breaks → Prop} (hzero : ¬ P 0)
    (hmax : ∀ a b, P (max a b) ↔ P a ∨ P b) {t : Text} {before inside after : Breaks}
    (h : of t = inked before inside after) : HasInside P t ↔ P inside := by
  constructor
  · rintro ⟨front, gap, back, rfl, hfront, hback, hgap, hP⟩
    obtain ⟨before', inside', hends⟩ := of_endsSolid hfront
    obtain ⟨inside'', after', hstarts⟩ := of_startsSolid hback
    rw [of_append, of_append, hends, of_blank hgap, hstarts] at h
    simp only [inked_append_bare, inked_append_inked, Breaks.zero_add, Breaks.add_zero] at h
    rw [← (inked.inj h).2.1, hmax, hmax]
    exact .inl (.inr hP)
  · intro hP
    induction t generalizing before inside after with
    | nil => cases h
    | cons c t ih =>
      -- A run inside the rest of the text is one inside the text.
      have hrest : HasInside P t → HasInside P (c :: t) := by
        rintro ⟨front, gap, back, rfl, hfront, hrun⟩
        exact ⟨c :: front, gap, back, rfl, hfront.cons c, hrun⟩
      rw [of_cons] at h
      cases hc : isBlank c with
      | true =>
        rw [ofChar, if_pos hc] at h
        cases ht : of t with
        | bare breaks => rw [ht] at h; cases h
        | inked a i z =>
          rw [ht, bare_append_inked] at h
          exact hrest (ih ht ((inked.inj h).2.1 ▸ hP))
      | false =>
        rw [ofChar_solid hc] at h
        cases ht : of t with
        | bare breaks =>
          rw [ht, inked_append_bare] at h
          exact absurd ((inked.inj h).2.1 ▸ hP) hzero
        | inked a i z =>
          rw [ht, inked_append_inked, Breaks.zero_add, Breaks.zero_max] at h
          rcases (hmax a i).mp ((inked.inj h).2.1 ▸ hP) with ha | hi
          · obtain ⟨gap, rest, rfl, hgap, hstart, rfl⟩ := exists_of_inked ht
            exact ⟨[c], gap, rest, rfl, ⟨c, rfl, hc⟩, hstart, hgap, ha⟩
          · exact hrest (ih ht hi)

end Layout

/-! ## Solid texts -/

/-- Blanks inside a solid text belong to a run between two neighbouring solid characters. -/
theorem IsSolid.exists_around {before blanks after : Text}
    (h : IsSolid (before ++ blanks ++ after)) (hne : blanks ≠ [])
    (hblanks : ∀ c ∈ blanks, isBlank c = true) :
    ∃ front lead trail back, before = front ++ lead ∧ after = trail ++ back ∧ EndsSolid front ∧
      StartsSolid back ∧ ∀ c ∈ lead ++ blanks ++ trail, isBlank c = true := by
  -- Blanks alone on one side would be the start or the end of the text.
  have hfront : isAllBlank before = false := by
    by_contra hblank
    have hall : ∀ c ∈ before ++ blanks, isBlank c = true :=
      List.forall_mem_append.mpr ⟨List.all_eq_true.mp (Bool.of_not_eq_false hblank), hblanks⟩
    obtain ⟨c, hc, hsolid⟩ := h.starts
    rw [List.head?_append_of_ne_nil _ (List.append_ne_nil_of_right_ne_nil before hne)] at hc
    rw [hall c (List.mem_of_mem_head? hc)] at hsolid
    cases hsolid
  have hback : isAllBlank after = false := by
    by_contra hblank
    have hall : ∀ c ∈ blanks ++ after, isBlank c = true :=
      List.forall_mem_append.mpr ⟨hblanks, List.all_eq_true.mp (Bool.of_not_eq_false hblank)⟩
    obtain ⟨c, hc, hsolid⟩ := h.ends
    rw [List.append_assoc, List.getLast?_append_of_ne_nil _
      (List.append_ne_nil_of_left_ne_nil hne after)] at hc
    rw [hall c (List.mem_of_getLast? hc)] at hsolid
    cases hsolid
  obtain ⟨lead, hbefore, hlead⟩ := exists_append_trimRight before
  obtain ⟨trail, hafter, htrail⟩ := exists_append_trimLeft after
  exact ⟨_, lead, trail, _, hbefore, hafter, endsSolid_trimRight hfront,
    startsSolid_trimLeft hback, List.forall_mem_append.mpr
      ⟨List.forall_mem_append.mpr ⟨hlead, hblanks⟩, htrail⟩⟩

/-- The text has a blank line: a line feed, blanks and a further line feed. -/
def HasBlankLine (t : Text) : Prop :=
  ∃ before gap after, t = before ++ '\n' :: gap ++ '\n' :: after ∧ ∀ c ∈ gap, isBlank c = true

/-- Two line feeds among blanks have blanks between them. -/
theorem two_le_count_iff (t : Text) :
    2 ≤ t.count '\n' ↔ ∃ before gap after, t = before ++ '\n' :: gap ++ '\n' :: after := by
  constructor
  · intro h
    obtain ⟨before, rest, rfl, hbefore⟩ :=
      List.eq_append_cons_of_mem (List.count_pos_iff.mp (by omega : 0 < t.count '\n'))
    rw [List.count_append, List.count_eq_zero.mpr hbefore, List.count_cons_self] at h
    obtain ⟨gap, after, rfl⟩ :=
      List.append_of_mem (List.count_pos_iff.mp (by omega : 0 < rest.count '\n'))
    exact ⟨before, gap, after, by simp⟩
  · rintro ⟨before, gap, after, rfl⟩
    simp only [List.count_append, List.count_cons_self]
    omega

section

variable {t : Text} {inside : Breaks}

/-- A solid text has a blank line exactly when two line feeds are inside. -/
theorem IsSolid.hasBlankLine_iff (h : IsSolid t) (hinside : Layout.of t = .inked 0 inside 0) :
    HasBlankLine t ↔ 2 ≤ inside.feeds := by
  rw [← Layout.hasInside_iff (P := fun b => 2 ≤ b.feeds) (by simp) (Breaks.le_feeds_max 2) hinside]
  constructor
  · rintro ⟨before, gap, after, rfl, hgap⟩
    have hblanks : ∀ c ∈ '\n' :: gap ++ ['\n'], isBlank c = true := by
      refine List.forall_mem_append.mpr ⟨List.forall_mem_cons.mpr ⟨rfl, hgap⟩, ?_⟩
      exact List.forall_mem_singleton.mpr rfl
    have hsolid : IsSolid (before ++ ('\n' :: gap ++ ['\n']) ++ after) := by simpa using h
    obtain ⟨front, lead, trail, back, rfl, rfl, hfront, hback, hall⟩ :=
      hsolid.exists_around (by simp) hblanks
    refine ⟨front, _, back, by simp, hfront, hback, hall, ?_⟩
    exact (two_le_count_iff _).mpr ⟨lead, gap, trail, by simp⟩
  · rintro ⟨front, run, back, rfl, -, -, hrun, htwo⟩
    obtain ⟨lead, gap, trail, rfl⟩ := (two_le_count_iff run).mp htwo
    refine ⟨front ++ lead, gap, trail ++ back, by simp, fun c hc => hrun c ?_⟩
    simp [hc]

/-- A solid text is on one line exactly when no line break is inside. -/
theorem IsSolid.isBreak_iff (h : IsSolid t) (hinside : Layout.of t = .inked 0 inside 0) :
    (∃ c ∈ t, isBreak c = true) ↔ inside.any = true := by
  rw [← Layout.hasInside_iff (P := fun b => b.any = true) (by simp) (by simp) hinside]
  constructor
  · rintro ⟨c, hc, hbreak⟩
    obtain ⟨before, after, rfl⟩ := List.append_of_mem hc
    have hsolid : IsSolid (before ++ [c] ++ after) := by simpa using h
    obtain ⟨front, lead, trail, back, rfl, rfl, hfront, hback, hall⟩ :=
      hsolid.exists_around (by simp) (List.forall_mem_singleton.mpr (isBlank_of_isBreak hbreak))
    exact ⟨front, _, back, by simp, hfront, hback, hall, by simp [Breaks.of, hbreak]⟩
  · rintro ⟨front, run, back, rfl, -, -, -, hany⟩
    obtain ⟨c, hc, hbreak⟩ := List.any_eq_true.mp hany
    exact ⟨c, by simp [hc], hbreak⟩

end

/-! ## Lines -/

/-- A text with a solid end ends with a filled line, which is all of it when it is the only one. -/
theorem EndsSolid.lines_eq {t : Text} (h : EndsSolid t) :
    ∃ front last, lines t = front ++ [last] ∧ EndsSolid last ∧ (front = [] → last = t) := by
  obtain ⟨c, hc, hb⟩ := h
  obtain ⟨t, rfl⟩ := List.getLast?_eq_some_iff.mp hc
  clear hc
  have hbreak := isBreak_of_solid hb
  have hlast : ∀ line : Text, EndsSolid (line ++ [c]) := fun line => EndsSolid.append ⟨c, rfl, hb⟩ _
  fun_induction lines t with
  | case1 => exact ⟨[], [c], lines_cons hbreak [], hlast [], fun _ => rfl⟩
  | case2 t ih =>
    obtain ⟨front, last, hlines, hends, -⟩ := ih
    exact ⟨[] :: front, last, by rw [List.cons_append, List.cons_append, lines, hlines]; rfl, hends,
      fun hnil => by cases hnil⟩
  | case3 d t hpair hd ih =>
    obtain ⟨front, last, hlines, hends, -⟩ := ih
    refine ⟨[] :: front, last, ?_, hends, fun hnil => by cases hnil⟩
    rw [List.cons_append, lines, if_pos hd, hlines]
    · rfl
    · rintro u rfl hu
      cases t with
      | nil =>
        obtain rfl : c = '\n' := (List.cons.inj hu).1
        cases hb
      | cons e t => exact hpair t rfl (by rw [(List.cons.inj hu).1])
  | case4 d t _ hd ih =>
    obtain ⟨front, last, hlines, hends, hwhole⟩ := ih
    rw [List.cons_append, lines_cons (Bool.of_not_eq_true hd), hlines]
    cases front with
    | nil =>
      obtain rfl := hwhole rfl
      exact ⟨[], d :: (t ++ [c]), rfl, (hlast t).cons d, fun _ => rfl⟩
    | cons first front => exact ⟨(d :: first) :: front, last, rfl, hends, fun hnil => by cases hnil⟩

/-- A solid text has one filled line or more of them, as line breaks are inside or not. -/
theorem IsSolid.length_filledLines {t : Text} (h : IsSolid t) {inside : Breaks}
    (hinside : Layout.of t = .inked 0 inside 0) :
    1 ≤ (filledLines t).length ∧ decide (2 ≤ (filledLines t).length) = inside.any := by
  rw [Bool.eq_iff_iff, decide_eq_true_eq, ← h.isBreak_iff hinside]
  obtain ⟨front, last, hlines, hlast, hwhole⟩ := h.ends.lines_eq
  cases front with
  | nil =>
    obtain rfl := hwhole rfl
    have hsingle : filledLines last = [last] := by
      rw [filledLines, hlines, List.nil_append, List.filter_cons, hlast.isAllBlank_eq_false]
      rfl
    have hmem : last ∈ lines last := by rw [hlines]; exact List.mem_singleton_self last
    have hunbroken : ∀ c ∈ last, isBreak c = false := fun c hc => (mem_of_mem_lines hmem c hc).2
    rw [hsingle]
    refine ⟨Nat.le_refl 1, iff_of_false (by simp) ?_⟩
    rintro ⟨c, hc, hbreak⟩
    rw [hunbroken c hc] at hbreak
    cases hbreak
  | cons line front =>
    obtain ⟨first, rest, hfirst, hstart⟩ := h.starts.lines_eq
    obtain rfl : line = first := List.head_eq_of_cons_eq (hlines.symm.trans hfirst)
    have htwo : 2 ≤ (filledLines t).length := by
      rw [filledLines, hlines, List.cons_append, List.filter_cons, hstart.isAllBlank_eq_false,
        List.filter_append, List.filter_cons, hlast.isAllBlank_eq_false]
      simp
    refine ⟨by omega, iff_of_true htwo ?_⟩
    -- On one line the text would be the only line that it has.
    by_contra hnone
    have hunbroken : ∀ c ∈ t, isBreak c = false := fun c hc =>
      Bool.of_not_eq_true fun hbreak => hnone ⟨c, hc, hbreak⟩
    rw [lines_eq_singleton hunbroken h.starts.ne_nil] at hlines
    simp at hlines

namespace Layout

/-- A filled line is laid out without line breaks. -/
theorem of_line {line : Text} (hfilled : isAllBlank line = false)
    (hbreak : ∀ c ∈ line, isBreak c = false) : of line = inked 0 0 0 := by
  obtain ⟨before, after, hline, hbefore, hafter⟩ := exists_append_trim line
  have hsolid := isSolid_trim hfilled
  obtain ⟨inside, hinside⟩ := of_isSolid hsolid
  have hnone : ∀ {u : Text}, u ⊆ line → Breaks.of u = 0 := fun hu =>
    Breaks.of_eq_zero fun c hc => hbreak c (hu hc)
  have hzero : inside = 0 := by
    have hany : inside.any ≠ true := by
      rw [Ne, ← hsolid.isBreak_iff hinside]
      rintro ⟨c, hc, hc'⟩
      rw [hbreak c ((infix_trim line).subset hc)] at hc'
      cases hc'
    have hfeeds : ¬ HasInside (fun b => 1 ≤ b.feeds) (trim line) := by
      rintro ⟨front, gap, back, ht, -, -, -, hpos⟩
      have hgap : gap ⊆ line := fun c hc => (infix_trim line).subset (by rw [ht]; simp [hc])
      rw [hnone hgap] at hpos
      exact absurd hpos (by decide)
    rw [hasInside_iff (P := fun b => 1 ≤ b.feeds) (by simp) (Breaks.le_feeds_max 1) hinside]
      at hfeeds
    exact Breaks.ext (by simpa using hfeeds) (Bool.of_not_eq_true hany)
  have hwhole := of_around hbefore hafter hinside
  rw [← hline] at hwhole
  rw [hwhole, hzero, hnone fun c hc => by rw [hline]; simp [hc],
    hnone fun c hc => by rw [hline]; simp [hc]]

/-- Filled lines one below another have single line feeds between them. -/
theorem of_unlines {ls : List Text} (hne : ls ≠ []) (hfilled : ∀ l ∈ ls, isAllBlank l = false)
    (hbreak : ∀ l ∈ ls, ∀ c ∈ l, isBreak c = false) :
    of (unlines ls) = inked 0 (if 2 ≤ ls.length then .feed else 0) 0 := by
  induction ls with
  | nil => exact absurd rfl hne
  | cons line ls ih =>
    obtain ⟨hline, hls⟩ := List.forall_mem_cons.mp hfilled
    obtain ⟨hunbroken, hrest⟩ := List.forall_mem_cons.mp hbreak
    cases ls with
    | nil => simpa [unlines] using of_line hline hunbroken
    | cons next ls =>
      rw [unlines_cons_cons, of_append, of_cons, of_line hline hunbroken,
        ih (List.cons_ne_nil next ls) hls hrest]
      have hfeed : ofChar '\n' = bare .feed := rfl
      have htwo : 2 ≤ (line :: next :: ls).length := by simp
      rw [hfeed, if_pos htwo]
      split <;> rfl

end Layout

end PageMarkdown.Text
