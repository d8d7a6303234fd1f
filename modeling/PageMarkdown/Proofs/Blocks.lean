import PageMarkdown.Markdown.Document
import PageMarkdown.Proofs.BlankRuns
import PageMarkdown.Proofs.Element
import PageMarkdown.Proofs.Grid
import PageMarkdown.Proofs.Outline
import PageMarkdown.Proofs.Walk

/-!
# Documents made of blocks

A block element is nothing, or a content with solid ends between two pairs of
line feeds. Wherever two such blocks meet, whatever blanks lie between them, one
blank line is left, and collapsing works on each content by itself. Hence a
document of blocks is the join of its blocks, each converted alone.
-/

namespace PageMarkdown.Markdown

open Text Html

/-! ## Collapsing beside solid ends -/

/-- A gap is a blank. -/
theorem isBlank_of_isGap {c : Char} (h : isGap c = true) : isBlank c = true := by
  simp only [isGap, Bool.or_eq_true, decide_eq_true_eq] at h
  rcases h with (rfl | rfl) | rfl <;> decide

theorem isGap_of_solid {c : Char} (h : isBlank c = false) : isGap c = false := by
  by_contra hg
  rw [isBlank_of_isGap (Bool.of_not_eq_false hg)] at h
  cases h

/-- No line feed is ahead of a solid start. -/
theorem feedsAhead_of_startsSolid {t : Text} (h : StartsSolid t) : feedsAhead t = 0 := by
  obtain ⟨c, hc, hb⟩ := h
  cases t with
  | nil => rfl
  | cons d t =>
    obtain rfl : d = c := Option.some.inj hc
    exact feedsAhead_solid t (isGap_of_solid hb)

/-- The line feeds of a gap come before those that are ahead of what follows it. -/
theorem feedsAhead_gap_append {gap : Text} (h : ∀ c ∈ gap, isGap c = true) (t : Text) :
    feedsAhead (gap ++ t) = gap.count '\n' + feedsAhead t := by
  induction gap with
  | nil => simp
  | cons c gap ih =>
    obtain ⟨hc, hgap⟩ := List.forall_mem_cons.mp h
    rw [List.cons_append]
    by_cases hn : c = '\n'
    · rw [hn, feedsAhead_newline, ih hgap, List.count_cons_self]
      omega
    · rw [feedsAhead_space _ hc hn, ih hgap, List.count_cons_of_ne hn]

/-- What follows a solid end does not change how many line feeds are ahead. -/
theorem feedsAhead_append {t : Text} (h : EndsSolid t) (u : Text) :
    feedsAhead (t ++ u) = feedsAhead t := by
  induction t with
  | nil => exact absurd rfl h.ne_nil
  | cons c t ih =>
    obtain ⟨d, hd, hb⟩ := h
    rw [List.cons_append]
    cases t with
    | nil =>
      obtain rfl : c = d := Option.some.inj hd
      rw [feedsAhead_solid _ (isGap_of_solid hb), feedsAhead_solid _ (isGap_of_solid hb)]
    | cons e t =>
      have hrest := ih ⟨d, by rwa [List.getLast?_cons_cons] at hd, hb⟩
      rcases gap_cases c with rfl | ⟨hg, hn⟩ | ⟨hg, -⟩
      · rw [feedsAhead_newline, feedsAhead_newline, hrest]
      · rw [feedsAhead_space _ hg hn, feedsAhead_space _ hg hn, hrest]
      · rw [feedsAhead_solid _ hg, feedsAhead_solid _ hg]

/-- A solid end separates what is collapsed: no run reaches across it. -/
theorem collapseFrom_append {t : Text} (h : EndsSolid t) (u : Text) :
    collapseFrom false (t ++ u) = collapseFrom false t ++ collapseFrom false u ∧
      (0 < feedsAhead t →
        collapseFrom true (t ++ u) = collapseFrom true t ++ collapseFrom false u) := by
  induction t with
  | nil => exact absurd rfl h.ne_nil
  | cons c t ih =>
    obtain ⟨d, hd, hb⟩ := h
    cases t with
    | nil =>
      obtain rfl : c = d := Option.some.inj hd
      have hg := isGap_of_solid hb
      have hn : c ≠ '\n' := by
        rintro rfl
        cases hg
      rw [List.singleton_append, collapseFrom_kept _ hn, collapseFrom_kept _ hn,
        feedsAhead_solid _ hg]
      exact ⟨rfl, fun hzero => absurd hzero (Nat.lt_irrefl 0)⟩
    | cons e t =>
      have hsolid : EndsSolid (e :: t) := ⟨d, by rwa [List.getLast?_cons_cons] at hd, hb⟩
      obtain ⟨hoff, hon⟩ := ih hsolid
      have hsame := feedsAhead_append hsolid u
      rw [List.cons_append]
      rcases gap_cases c with rfl | ⟨hg, hn⟩ | ⟨hg, hn⟩
      · constructor
        · by_cases hrun : 2 ≤ feedsAhead (e :: t)
          · rw [collapseFrom_run hrun, collapseFrom_run (hsame ▸ hrun), hon (by omega)]
            rfl
          · rw [collapseFrom_newline hrun, collapseFrom_newline (hsame ▸ hrun), hoff]
            rfl
        · intro _
          by_cases hzero : feedsAhead (e :: t) = 0
          · rw [collapseFrom_last hzero, collapseFrom_last (hsame ▸ hzero), hoff]
          · rw [collapseFrom_inside (.inr hzero), collapseFrom_inside (.inr (hsame ▸ hzero)),
              hon (by omega)]
      · rw [collapseFrom_kept _ hn, collapseFrom_kept _ hn, collapseFrom_inside (.inl hn),
          collapseFrom_inside (.inl hn), feedsAhead_space _ hg hn, hoff]
        exact ⟨rfl, hon⟩
      · rw [collapseFrom_kept _ hn, collapseFrom_kept _ hn, feedsAhead_solid _ hg, hoff]
        exact ⟨rfl, fun hzero => absurd hzero (Nat.lt_irrefl 0)⟩

/-- Inside a written run everything is dropped up to the solid text behind its last line feed. -/
theorem collapseFrom_true_gap {gap t : Text} (hgap : ∀ c ∈ gap, isGap c = true)
    (ht : StartsSolid t) : collapseFrom true (gap ++ '\n' :: t) = collapseFrom false t := by
  have hzero := feedsAhead_of_startsSolid ht
  induction gap with
  | nil => exact collapseFrom_last hzero
  | cons c gap ih =>
    obtain ⟨-, hgap⟩ := List.forall_mem_cons.mp hgap
    rw [List.cons_append, collapseFrom_inside, ih hgap]
    refine .inr ?_
    rw [feedsAhead_gap_append hgap, feedsAhead_newline]
    omega

/-- Between two solid texts a gap that begins and ends with a blank line collapses to one blank
line. -/
theorem collapseBlankLines_between {t gap u : Text} (ht : EndsSolid t)
    (hgap : ∀ c ∈ gap, isGap c = true) (hu : StartsSolid u) :
    collapseBlankLines (t ++ ('\n' :: '\n' :: gap ++ '\n' :: '\n' :: u)) =
      collapseBlankLines t ++ '\n' :: '\n' :: collapseBlankLines u := by
  have hrest : ∀ c ∈ '\n' :: gap ++ ['\n'], isGap c = true := by
    intro c hc
    simp only [List.cons_append, List.mem_cons, List.mem_append, List.not_mem_nil, or_false] at hc
    rcases hc with rfl | hc | rfl
    · rfl
    · exact hgap c hc
    · rfl
  have hwhole : '\n' :: '\n' :: gap ++ '\n' :: '\n' :: u =
      '\n' :: (('\n' :: gap ++ ['\n']) ++ '\n' :: u) := by simp
  have hrun : 2 ≤ feedsAhead (('\n' :: gap ++ ['\n']) ++ '\n' :: u) := by
    rw [feedsAhead_gap_append hrest]
    simp
    omega
  rw [collapseBlankLines, (collapseFrom_append ht _).1, hwhole, collapseFrom_run hrun,
    collapseFrom_true_gap hrest hu]
  rfl

/-- Deleting gaps leaves a solid start where it is. -/
theorem GapsDeleted.startsSolid {t u : Text} (h : GapsDeleted t u) (hu : StartsSolid u) :
    StartsSolid t := by
  obtain ⟨c, hc, hb⟩ := hu
  cases h with
  | nil => cases hc
  | keep d h =>
    obtain rfl : d = c := Option.some.inj hc
    exact startsSolid_cons hb _
  | delete hd h =>
    obtain rfl := Option.some.inj hc
    rw [isGap_of_solid hb] at hd
    cases hd

/-- Deleting gaps leaves a solid end where it is. -/
theorem GapsDeleted.endsSolid {t u : Text} (h : GapsDeleted t u) (hu : EndsSolid u) :
    EndsSolid t := by
  induction h with
  | nil => exact hu
  | @keep d t u h ih =>
    obtain ⟨c, hc, hb⟩ := hu
    cases u with
    | nil =>
      cases h
      exact ⟨c, hc, hb⟩
    | cons e u => exact (ih ⟨c, by rwa [List.getLast?_cons_cons] at hc, hb⟩).cons d
  | @delete d t u hd h ih =>
    obtain ⟨c, hc, hb⟩ := hu
    cases u with
    | nil =>
      obtain rfl : d = c := Option.some.inj hc
      rw [isGap_of_solid hb] at hd
      cases hd
    | cons e u => exact ih ⟨c, by rwa [List.getLast?_cons_cons] at hc, hb⟩

/-- Collapsing keeps solid ends. -/
theorem isSolid_collapseBlankLines {t : Text} (h : IsSolid t) : IsSolid (collapseBlankLines t) :=
  have hdeleted := (gapsDeleted_collapseFrom t).1
  ⟨hdeleted.startsSolid h.starts, hdeleted.endsSolid h.ends⟩

/-! ## Blocks with gaps around them -/

/-- The text is made of blocks with the given contents, in order, and of gaps around them. -/
inductive Spaced : List Text → Text → Prop where
  /-- A gap without blocks. -/
  | gap {gap : Text} : (∀ c ∈ gap, isGap c = true) → Spaced [] gap
  /-- A gap, a block, and more. -/
  | block {gap : Text} (content : Text) {contents : List Text} {t : Text} :
      (∀ c ∈ gap, isGap c = true) → Spaced contents t →
        Spaced (content :: contents) (gap ++ '\n' :: '\n' :: content ++ '\n' :: '\n' :: t)

namespace Spaced

theorem append {contents contents' : List Text} {t t' : Text} (h : Spaced contents t)
    (h' : Spaced contents' t') : Spaced (contents ++ contents') (t ++ t') := by
  induction h with
  | @gap g hg =>
    cases h' with
    | gap hg' => exact .gap fun c hc => (List.mem_append.mp hc).elim (hg c) (hg' c)
    | @block g' content contents t hg' h' =>
      have hboth : ∀ c ∈ g ++ g', isGap c = true :=
        fun c hc => (List.mem_append.mp hc).elim (hg c) (hg' c)
      simpa using block content hboth h'
  | block content hg _ ih => simpa using block content hg ih

/-- A block by itself; an empty one is nothing. -/
theorem single (content : Text) :
    Spaced (if content.isEmpty then [] else [content]) (Markdown.block content) := by
  rw [Markdown.block]
  split
  · exact .gap (by simp)
  · have hnone : ∀ c ∈ ([] : Text), isGap c = true := by simp
    simpa using block content hnone (.gap hnone)

/-- Around the blocks there are only gaps, and between them collapsing leaves one blank line. -/
theorem exists_body {contents : List Text} {t : Text} (h : Spaced contents t)
    (hne : contents ≠ []) (hsolid : ∀ content ∈ contents, IsSolid content) :
    ∃ gap body after, t = gap ++ '\n' :: '\n' :: body ++ after ∧ (∀ c ∈ gap, isGap c = true) ∧
      (∀ c ∈ after, isBlank c = true) ∧ IsSolid body ∧
      collapseBlankLines body = paragraphs (contents.map collapseBlankLines) := by
  induction h with
  | gap => exact absurd rfl hne
  | @block g content contents t hg h ih =>
    obtain ⟨hcontent, hcontents⟩ := List.forall_mem_cons.mp hsolid
    cases h with
    | gap ht =>
      refine ⟨g, content, '\n' :: '\n' :: t, rfl, hg, ?_, hcontent, by simp [paragraphs]⟩
      intro c hc
      simp only [List.mem_cons] at hc
      rcases hc with rfl | rfl | hc
      · rfl
      · rfl
      · exact isBlank_of_isGap (ht c hc)
    | @block _ next contents _ _ _ =>
      obtain ⟨gap, body, after, ht, hgap, hafter, hbody, hjoin⟩ :=
        ih (List.cons_ne_nil next contents) hcontents
      refine ⟨g, content ++ ('\n' :: '\n' :: gap ++ '\n' :: '\n' :: body), after, ?_, hg, hafter,
        ⟨hcontent.starts.append _, ?_⟩, ?_⟩
      · rw [ht]
        simp
      · exact (((hbody.ends.cons '\n').cons '\n').append _).append _
      · rw [collapseBlankLines_between hcontent.ends hgap hbody.starts, hjoin]
        simp [paragraphs]

/-- Settling blocks collapses each content and joins what there is. -/
theorem settle_eq {contents : List Text} {t : Text} (h : Spaced contents t)
    (hsolid : ∀ content ∈ contents, IsSolid content) :
    Converter.settle t = paragraphs (contents.map collapseBlankLines) := by
  by_cases hne : contents = []
  · subst hne
    cases h with
    | gap hg =>
      have hblank : isAllBlank t = true :=
        List.all_eq_true.mpr fun c hc => isBlank_of_isGap (hg c hc)
      rw [Converter.settle, (trim_eq_nil_iff t).mpr hblank]
      rfl
  · obtain ⟨gap, body, after, rfl, hgap, hafter, hbody, hjoin⟩ := h.exists_body hne hsolid
    have hbefore : ∀ c ∈ gap ++ ['\n', '\n'], isBlank c = true := by
      intro c hc
      simp only [List.mem_append, List.mem_cons, List.not_mem_nil, or_false] at hc
      rcases hc with hc | rfl | rfl
      · exact isBlank_of_isGap (hgap c hc)
      · rfl
      · rfl
    have htrim : trim (gap ++ '\n' :: '\n' :: body ++ after) = body := by
      have hwhole := hbody.isTrimmed.trim_append hbefore hafter
      simpa using hwhole
    rw [Converter.settle, htrim, (isSolid_collapseBlankLines hbody).isTrimmed.trim_eq, hjoin]

end Spaced

/-! ## Block elements -/

/-- The text is a block: nothing, or a content with solid ends between empty lines. -/
def IsBlock (t : Text) : Prop := ∃ content, t = block content ∧ (content = [] ∨ IsSolid content)

theorem isBlock_nil : IsBlock [] := ⟨[], rfl, .inl rfl⟩

theorem isBlock_of_solid {content : Text} (h : IsSolid content) : IsBlock (block content) :=
  ⟨content, rfl, .inr h⟩

theorem isBlock_block_trim (t : Text) : IsBlock (block (trim t)) := by
  refine ⟨trim t, rfl, ?_⟩
  by_cases h : trim t = []
  · exact .inl h
  · exact .inr ((isTrimmed_trim t).isSolid h)

theorem isBlock_headingMarkdown {level : Nat} (hlevel : 0 < level) (t : Text) :
    IsBlock (headingMarkdown level (trim t)) := by
  rw [headingMarkdown]
  split
  · exact isBlock_nil
  · rename_i hne
    obtain ⟨level, rfl⟩ := Nat.exists_eq_add_of_lt hlevel
    have hsolid := (isTrimmed_trim t).isSolid (by simpa using hne)
    rw [Nat.zero_add, List.replicate_succ]
    exact isBlock_of_solid ⟨startsSolid_cons rfl _, (hsolid.ends.cons ' ').append _⟩

theorem isBlock_preformattedMarkdown (t : Text) : IsBlock (preformattedMarkdown t) := by
  have hfence : EndsSolid ['\x60', '\x60', '\x60'] := ⟨'\x60', rfl, rfl⟩
  rw [preformattedMarkdown]
  split
  · exact isBlock_nil
  · exact isBlock_of_solid ⟨startsSolid_cons rfl _, (hfence.cons '\n').append _⟩

theorem isBlock_quoteMarkdown (t : Text) : IsBlock (quoteMarkdown t) := by
  rw [quoteMarkdown]
  cases h : (lines t).filter fun line => !isAllBlank line with
  | nil => exact isBlock_nil
  | cons line ls =>
    refine isBlock_of_solid ⟨startsSolid_unlines (startsSolid_cons rfl _) _, ?_⟩
    refine endsSolid_unlines (List.cons_ne_nil _ _) ?_
    intro quoted hquoted
    obtain ⟨l, hl, rfl⟩ := List.mem_map.mp hquoted
    have hmem : l ∈ filledLines t := by
      rw [filledLines, h]
      exact hl
    exact ((isSolid_trim (of_mem_filledLines hmem).1).ends.cons ' ').cons '>'

/-- A list is a block of its lines. -/
theorem renderList_eq_block {items : List Text} (h : ∀ item ∈ items, StartsSolid item)
    (ordered : Bool) (depth : Nat) :
    renderList ordered depth items = block (unlines (listLines ordered depth 1 items)) := by
  rw [renderList]
  cases hlines : listLines ordered depth 1 items with
  | nil => rfl
  | cons line ls =>
    have hends : EndsSolid (unlines (line :: ls)) := by
      refine endsSolid_unlines (List.cons_ne_nil line ls) fun l hl => ?_
      exact endsSolid_of_mem_listLines h (hlines ▸ hl)
    rw [block, if_neg (by simpa using hends.ne_nil)]

/-- The lines of an outermost list begin and end solidly. -/
theorem isSolid_unlines_listLines {items : List Text} (h : ∀ item ∈ items, StartsSolid item)
    (ordered : Bool) : unlines (listLines ordered 0 1 items) = [] ∨
      IsSolid (unlines (listLines ordered 0 1 items)) := by
  cases items with
  | nil => exact .inl rfl
  | cons item items =>
    obtain ⟨line, ls, hlines, hline⟩ :=
      listLines_outermost (List.forall_mem_cons.mp h).1 items ordered
    rw [hlines]
    refine .inr ⟨startsSolid_unlines hline ls, ?_⟩
    exact endsSolid_unlines (List.cons_ne_nil line ls) fun l hl =>
      endsSolid_of_mem_listLines h (hlines ▸ hl)

theorem isBlock_renderList {items : List Text} (h : ∀ item ∈ items, StartsSolid item)
    (ordered : Bool) : IsBlock (renderList ordered 0 items) :=
  ⟨_, renderList_eq_block h ordered 0, isSolid_unlines_listLines h ordered⟩

theorem isBlock_renderTable (rows : List TableRow) : IsBlock (renderTable rows) := by
  by_cases hnone : rows = [] ∨ columnsOf rows = []
  · rw [renderTable_eq_nil hnone]
    exact isBlock_nil
  · obtain ⟨hrows, hcolumns⟩ := not_or.mp hnone
    obtain ⟨header, -, hrender⟩ := renderTable_eq hrows hcolumns
    have hbar : ∀ cells, IsSolid (barLine cells) := fun cells =>
      ⟨startsSolid_cons rfl _, EndsSolid.append ⟨'|', rfl, rfl⟩ _⟩
    have hsolid : IsSolid (unlines (tableLines (columnsOf rows) header
        (rows.eraseIdx (headerIndex rows)))) := by
      refine ⟨startsSolid_unlines (hbar _).starts _, ?_⟩
      refine endsSolid_unlines (List.cons_ne_nil _ _) fun l hl => ?_
      simp only [tableLines, List.mem_cons, List.mem_map] at hl
      rcases hl with rfl | rfl | ⟨r, -, rfl⟩ <;> exact (hbar _).ends
    rw [hrender]
    refine ⟨_, ?_, .inr hsolid⟩
    rw [block, if_neg (by simpa using hsolid.starts.ne_nil)]

/-- The element is set off from what stands around it. -/
def isBlockElement : Node → Bool
  | .text _ _ => false
  | .element name _ _ =>
    match Role.ofName name with
    | .heading _ | .paragraph | .preformatted | .quote | .rule | .list _ | .table => true
    | _ => false

/-- Every heading has a level. -/
theorem Role.level_pos {name : Text} {level : Nat} (h : Role.ofName name = .heading level) :
    0 < level := by
  have hknown : ∀ entry ∈ Role.known, ∀ n, entry.2 = .heading n → 0 < n := by
    simp [Role.known]
  obtain ⟨entry, hentry, -, hrole⟩ := Role.exists_known h Role.noConfusion
  exact hknown entry hentry level hrole

/-- Outside of lists a block element is shown as a block, or not at all. -/
theorem isBlock_walk (room : Nat) {node : Node} (h : isBlockElement node) :
    IsBlock (walk room 0 node).value := by
  cases node with
  | text kind content => cases h
  | element name attributes kids =>
    cases room with
    | zero =>
      rw [walk_element_zero]
      exact isBlock_nil
    | succ room =>
      rw [walk_element_succ, shown]
      rw [isBlockElement] at h
      cases hrole : Role.ofName name with
      | heading level => exact isBlock_headingMarkdown (Role.level_pos hrole) _
      | paragraph => exact isBlock_block_trim _
      | preformatted => exact isBlock_preformattedMarkdown _
      | quote => exact isBlock_quoteMarkdown _
      | rule => exact isBlock_of_solid ⟨startsSolid_cons rfl _, '-', rfl, rfl⟩
      | list ordered =>
        exact isBlock_renderList (fun item hitem => (isSolid_of_mem_walkItems hitem).starts) ordered
      | table => exact isBlock_renderTable _
      | _ => simp [hrole] at h

/-! ## Documents -/

/-- The string shows nothing but blanks: it is not read, or blank. -/
def isSpace : Node → Bool
  | .text kind content => !kind.isRead || isAllBlank content
  | .element _ _ _ => false

/-- Blanks have no references. -/
theorem not_mem_of_isAllBlank {t : Text} (h : isAllBlank t = true) : '&' ∉ t := by
  intro hmem
  have hblank := List.all_eq_true.mp h '&' hmem
  exact absurd hblank (by decide)

/-- Squeezing blanks leaves at most one space. -/
theorem squeezeFrom_of_isAllBlank {t : Text} (h : isAllBlank t = true) (written : Bool) :
    squeezeFrom written t = if written || t.isEmpty then [] else [' '] := by
  induction t generalizing written with
  | nil => simp [squeezeFrom]
  | cons c t ih =>
    obtain ⟨hc, ht⟩ := List.forall_mem_cons.mp (List.all_eq_true.mp h)
    rw [squeezeFrom, if_pos hc, ih (List.all_eq_true.mpr ht)]
    cases written <;> rfl

/-- A string of blanks is shown as a gap. -/
theorem walk_space {node : Node} (h : isSpace node) (room depth : Nat) :
    (walk room depth node).marks = [] ∧ ∀ c ∈ (walk room depth node).value, isGap c = true := by
  cases node with
  | element name attributes kids => cases h
  | text kind content =>
    rw [walk]
    split
    · rename_i hread
      have hblank : isAllBlank content = true := by simpa [isSpace, hread] using h
      rw [stringMarkdown_plain (not_mem_of_isAllBlank hblank)]
      refine ⟨rfl, ?_⟩
      intro c hc
      rw [Marked.clear, squeeze, squeezeFrom_of_isAllBlank hblank] at hc
      simp only at hc
      split at hc
      · cases hc
      · rw [List.mem_singleton.mp hc]
        rfl
    · exact ⟨rfl, by simp [Marked.clear]⟩

/-- A block settles to its collapsed content. -/
theorem settle_block {content : Text} (h : content = [] ∨ IsSolid content) :
    Converter.settle (block content) = collapseBlankLines content := by
  rcases h with rfl | hsolid
  · rfl
  · have hsingle := Spaced.single content
    rw [if_neg (by simpa using hsolid.starts.ne_nil)] at hsingle
    rw [hsingle.settle_eq (List.forall_mem_singleton.mpr hsolid)]
    simp [paragraphs]

/-- A block has one content, or none, and its contents collapse to what it settles to. -/
theorem IsBlock.spaced {t : Text} (h : IsBlock t) :
    ∃ contents, Spaced contents t ∧ (∀ content ∈ contents, IsSolid content) ∧
      contents.map collapseBlankLines = [Converter.settle t].filter fun s => !s.isEmpty := by
  obtain ⟨content, rfl, hcontent⟩ := h
  refine ⟨_, Spaced.single content, ?_, ?_⟩
  · intro own hown
    split at hown
    · cases hown
    · rename_i hfilled
      obtain rfl := List.mem_singleton.mp hown
      exact hcontent.resolve_left (by simpa using hfilled)
  · rw [settle_block hcontent]
    rcases hcontent with rfl | hsolid
    · rfl
    · have hown : content.isEmpty = false := by simpa using hsolid.starts.ne_nil
      have hcollapsed : (collapseBlankLines content).isEmpty = false := by
        simpa using (isSolid_collapseBlankLines hsolid).starts.ne_nil
      simp [hown, hcollapsed]

/-- What the nodes of a document of blocks come to. -/
structure BlocksWalked (room : Nat) (nodes : List Node) : Prop where
  /-- The Markdown is made of contents and gaps, and each content settles by itself to what its
  block settles to. -/
  spaced : ∃ contents, Spaced contents (walkAll room 0 nodes).value ∧
    (∀ content ∈ contents, IsSolid content) ∧
    contents.map collapseBlankLines =
      ((nodes.filter isBlockElement).map fun node =>
        Converter.settle (walkAll room 0 [node]).value).filter fun t => !t.isEmpty
  /-- Only blocks are refused. -/
  refused : (walkAll room 0 nodes).marks.findSome? Mark.refused? =
    (nodes.filter isBlockElement).findSome? fun node =>
      (walkAll room 0 [node]).marks.findSome? Mark.refused?

namespace BlocksWalked

variable {room : Nat}

theorem nil : BlocksWalked room [] := by
  constructor
  · rw [walkAll]
    exact ⟨[], .gap (by simp [Marked.clear]), by simp, rfl⟩
  · rw [walkAll]
    rfl

theorem space {node : Node} (hnode : isSpace node) {others : List Node}
    (h : BlocksWalked room others) : BlocksWalked room (node :: others) := by
  obtain ⟨hmarks, hgap⟩ := walk_space hnode room 0
  have hblock : isBlockElement node = false := by
    cases node with
    | text kind content => rfl
    | element name attributes kids => cases hnode
  constructor
  · obtain ⟨contents, hspaced, hsolid, hsettled⟩ := h.spaced
    rw [walkAll, List.filter_cons, hblock]
    exact ⟨contents, (Spaced.gap hgap).append hspaced, hsolid, hsettled⟩
  · rw [walkAll, Marked.marks_append, hmarks, List.filter_cons, hblock]
    exact h.refused

theorem block {node : Node} (hnode : isBlockElement node) {others : List Node}
    (h : BlocksWalked room others) : BlocksWalked room (node :: others) := by
  constructor
  · obtain ⟨contents, hspaced, hsolid, hsettled⟩ := h.spaced
    obtain ⟨own, hown, hownSolid, hownSettled⟩ := (isBlock_walk room hnode).spaced
    rw [walkAll, List.filter_cons, hnode, if_pos rfl, List.map_cons, walkAll_singleton]
    refine ⟨own ++ contents, hown.append hspaced, ?_, ?_⟩
    · exact List.forall_mem_append.mpr ⟨hownSolid, hsolid⟩
    · rw [List.map_append, hownSettled, hsettled, ← List.filter_append]
      rfl
  · rw [walkAll, Marked.marks_append, List.findSome?_append, List.filter_cons, hnode, if_pos rfl,
      List.findSome?_cons, h.refused, walkAll_singleton]
    cases (walk room 0 node).marks.findSome? Mark.refused? <;> rfl

end BlocksWalked

/-- A document of blocks and blanks. -/
theorem blocksWalked (room : Nat) {nodes : List Node}
    (h : ∀ node ∈ nodes, isBlockElement node ∨ isSpace node) : BlocksWalked room nodes := by
  induction nodes with
  | nil => exact .nil
  | cons node others ih =>
    obtain ⟨hnode, hothers⟩ := List.forall_mem_cons.mp h
    exact hnode.elim (fun hblock => (ih hothers).block hblock)
      fun hspace => (ih hothers).space hspace

/-- Converting a document is a homomorphism on blocks. When the nodes of a document are block
elements, blank strings and comments, its Markdown is the join of what its blocks come to when each
is converted alone, blocks that come to nothing being left out; and it ends in a fault when one of
them does, in the first one. -/
theorem documentText_blocks (c : Converter) (nodes : List Node)
    (h : ∀ node ∈ nodes, isBlockElement node ∨ isSpace node) :
    c.documentText nodes =
      ((nodes.filter isBlockElement).mapM fun node => c.documentText [node]).map fun ts =>
        paragraphs (ts.filter fun t => !t.isEmpty) := by
  -- Both sides are brought to what is refused first and to what the contents settle to.
  have hwalked := blocksWalked c.room h
  obtain ⟨contents, hspaced, hsolid, hsettled⟩ := hwalked.spaced
  simp only [Converter.documentText_eq, mapM_unlessRefused]
  rw [hwalked.refused, hspaced.settle_eq hsolid, hsettled]
  cases (nodes.filter isBlockElement).findSome? fun node =>
    (walkAll c.room 0 [node]).marks.findSome? Mark.refused? <;> rfl

/-- A heading and a list with blanks, a comment and an empty paragraph between them, and a rule next
to the list. -/
def scatteredBlocks : List Node :=
  [.text .plain "\n ".toList,
    .element "h2".toList [] [.text .plain " One ".toList],
    .text .comment "not blank".toList,
    .element "p".toList [] [],
    .text .plain "\t".toList,
    .element "ul".toList [] [.element "li".toList [] [.text .plain "two".toList]],
    .element "hr".toList [] []]

theorem documentText_blocks_scattered :
    (∀ node ∈ scatteredBlocks, isBlockElement node ∨ isSpace node) ∧
      Converter.documentText ⟨9, false⟩ scatteredBlocks =
        .ok "## One\n\n- two\n\n---".toList := by
  have hblocks : ∀ node ∈ scatteredBlocks, isBlockElement node ∨ isSpace node := by decide
  refine ⟨hblocks, (documentText_blocks _ _ hblocks).trans ?_⟩
  rfl

end PageMarkdown.Markdown
