import PageMarkdown.Proofs.Blocks
import PageMarkdown.Proofs.Inventory

/-!
# Composed documents are settled

A piece has solid ends and no run of blank lines. Lines of solid ends make a
piece, and so do pieces with a blank line between them. Every section of the
metadata is a piece, because what it is made of is flat or sanitized, and so is a
body that was walked. Behind the title line a document is therefore one piece,
and the line feed at its end is the only one there.
-/

namespace PageMarkdown.Markdown

open Text Html

/-! ## Runs across a boundary -/

/-- Text without line feeds in front of a text brings no run. -/
theorem hasBlankRun_append_of_line {line : Text} (h : '\n' ∉ line) (t : Text) :
    HasBlankRun (line ++ t) ↔ HasBlankRun t := by
  induction line with
  | nil => rfl
  | cons c line ih =>
    obtain ⟨hc, hline⟩ := not_or.mp (mt List.mem_cons.mpr h)
    rw [List.cons_append, hasBlankRun_cons, ih hline]
    exact or_iff_right fun hrun => hc hrun.1.symm

theorem not_hasBlankRun_line {line : Text} (h : '\n' ∉ line) : ¬ HasBlankRun line := by
  have hnone := (hasBlankRun_append_of_line h []).not.mpr not_hasBlankRun_nil
  rwa [List.append_nil] at hnone

/-- No run reaches across a solid end. -/
theorem hasBlankRun_append {t : Text} (h : EndsSolid t) (u : Text) :
    HasBlankRun (t ++ u) ↔ HasBlankRun t ∨ HasBlankRun u := by
  induction t with
  | nil => exact absurd rfl h.ne_nil
  | cons c t ih =>
    obtain ⟨d, hd, hsolid⟩ := h
    cases t with
    | nil =>
      obtain rfl : c = d := Option.some.inj hd
      have hc : '\n' ∉ [c] := by
        rintro hmem
        obtain rfl := List.mem_singleton.mp hmem
        cases hsolid
      rw [hasBlankRun_append_of_line hc, or_iff_right (not_hasBlankRun_line hc)]
    | cons e t =>
      have hends : EndsSolid (e :: t) := ⟨d, by rwa [List.getLast?_cons_cons] at hd, hsolid⟩
      rw [List.cons_append, hasBlankRun_cons, hasBlankRun_cons, feedsAhead_append hends, ih hends,
        or_assoc]

/-- A line feed in front of a solid start begins no run, and neither do two. -/
theorem not_hasBlankRun_feeds {t : Text} (hstart : StartsSolid t) (h : ¬ HasBlankRun t) :
    ¬ HasBlankRun ('\n' :: t) ∧ ¬ HasBlankRun ('\n' :: '\n' :: t) := by
  have hzero := feedsAhead_of_startsSolid hstart
  have hone : ¬ HasBlankRun ('\n' :: t) := by
    rw [hasBlankRun_cons]
    rintro (⟨-, hrun⟩ | hrun)
    · omega
    · exact h hrun
  refine ⟨hone, ?_⟩
  rw [hasBlankRun_cons, feedsAhead_newline]
  rintro (⟨-, hrun⟩ | hrun)
  · omega
  · exact hone hrun

/-! ## Lines and pieces -/

/-- A line with solid ends. -/
structure IsLine (t : Text) : Prop where
  /-- The ends are solid. -/
  solid : IsSolid t
  /-- There is no line feed. -/
  single : '\n' ∉ t

/-- A settled text with solid ends. -/
structure IsPiece (t : Text) : Prop where
  /-- The ends are solid. -/
  solid : IsSolid t
  /-- There is no run of blank lines. -/
  settled : ¬ HasBlankRun t

theorem IsLine.isPiece {t : Text} (h : IsLine t) : IsPiece t :=
  ⟨h.solid, not_hasBlankRun_line h.single⟩

/-- Lines one below another make a piece. -/
theorem isPiece_unlines {ls : List Text} (hne : ls ≠ []) (h : ∀ l ∈ ls, IsLine l) :
    IsPiece (unlines ls) := by
  induction ls with
  | nil => exact absurd rfl hne
  | cons line ls ih =>
    obtain ⟨hline, hls⟩ := List.forall_mem_cons.mp h
    cases ls with
    | nil => simpa [unlines] using hline.isPiece
    | cons next ls =>
      have hrest := ih (List.cons_ne_nil _ _) hls
      rw [unlines_cons_cons]
      refine ⟨⟨hline.solid.starts.append _, (hrest.solid.ends.cons '\n').append line⟩, ?_⟩
      rw [hasBlankRun_append_of_line hline.single]
      exact (not_hasBlankRun_feeds hrest.solid.starts hrest.settled).1

theorem paragraphs_cons_cons (piece next : Text) (pieces : List Text) :
    paragraphs (piece :: next :: pieces) =
      piece ++ '\n' :: '\n' :: paragraphs (next :: pieces) := by
  simp [paragraphs]

/-- Pieces with a blank line between them make a piece. -/
theorem isPiece_paragraphs {pieces : List Text} (hne : pieces ≠ [])
    (h : ∀ piece ∈ pieces, IsPiece piece) : IsPiece (paragraphs pieces) := by
  induction pieces with
  | nil => exact absurd rfl hne
  | cons piece pieces ih =>
    obtain ⟨hpiece, hpieces⟩ := List.forall_mem_cons.mp h
    cases pieces with
    | nil => simpa [paragraphs] using hpiece
    | cons next pieces =>
      have hrest := ih (List.cons_ne_nil _ _) hpieces
      rw [paragraphs_cons_cons]
      refine ⟨⟨hpiece.solid.starts.append _,
        ((hrest.solid.ends.cons '\n').cons '\n').append piece⟩, ?_⟩
      rw [hasBlankRun_append hpiece.solid.ends, not_or]
      exact ⟨hpiece.settled, (not_hasBlankRun_feeds hrest.solid.starts hrest.settled).2⟩

/-! ## Sections -/

theorem isLine_bold {t : Text} (h : '\n' ∉ t) : IsLine (bold t) := by
  have hends : EndsSolid (bold t) := EndsSolid.append ⟨'*', rfl, rfl⟩ _
  refine ⟨⟨startsSolid_cons rfl _, hends⟩, ?_⟩
  simp [bold, h]

/-- A section with a heading of one line is a piece when its content is. -/
theorem isPiece_sectionText {heading content : Text} (hheading : '\n' ∉ heading)
    (h : IsPiece content) : IsPiece (sectionText heading content) := by
  refine isPiece_paragraphs (List.cons_ne_nil _ _) ?_
  simp only [List.forall_mem_cons, List.not_mem_nil, false_implies, implies_true, and_true]
  exact ⟨(isLine_bold hheading).isPiece, h⟩

/-- A line of a list: it has solid ends and no line feed. -/
def IsListed (l : Text) : Prop := ∃ t, l = '-' :: ' ' :: t ∧ EndsSolid t ∧ '\n' ∉ t

theorem IsListed.isLine {l : Text} (h : IsListed l) : IsLine l := by
  obtain ⟨t, rfl, hends, hsingle⟩ := h
  refine ⟨⟨startsSolid_cons rfl _, (hends.cons ' ').cons '-'⟩, ?_⟩
  simp [hsingle]

/-- A section of the metadata other than the summary: below its heading are the lines of a list, or
the word that there are none, or further sections. -/
inductive IsSection : Text → Prop where
  /-- The lines of a list. -/
  | listed {heading : Text} {ls : List Text} (hheading : '\n' ∉ heading) (hne : ls ≠ [])
      (hls : ∀ l ∈ ls, IsListed l) : IsSection (sectionText heading (unlines ls))
  /-- Nothing to list. -/
  | bare {heading : Text} (hheading : '\n' ∉ heading) :
      IsSection (sectionText heading "_(none)_".toList)
  /-- Further sections. -/
  | grouped {heading : Text} {pieces : List Text} (hheading : '\n' ∉ heading)
      (hpieces : ∀ piece ∈ pieces, IsSection piece) :
      IsSection (paragraphs (bold heading :: pieces))

theorem IsSection.isPiece {t : Text} (h : IsSection t) : IsPiece t := by
  induction h with
  | listed hheading hne hls =>
    exact isPiece_sectionText hheading (isPiece_unlines hne fun l hl => (hls l hl).isLine)
  | bare hheading =>
    have hnone : IsLine "_(none)_".toList := ⟨⟨⟨'_', rfl, rfl⟩, '_', rfl, rfl⟩, by decide⟩
    exact isPiece_sectionText hheading hnone.isPiece
  | grouped hheading hpieces ih =>
    exact isPiece_paragraphs (List.cons_ne_nil _ _)
      (List.forall_mem_cons.mpr ⟨(isLine_bold hheading).isPiece, ih⟩)

/-- Terms are listed on lines, and no term is a fault. -/
theorem exists_termLines (terms : List Term) :
    ∃ ls, (termLines terms).outcome = .ok ls ∧ ∀ l ∈ ls, IsListed l := by
  induction terms with
  | nil => exact ⟨[], rfl, by simp⟩
  | cons term others ih =>
    obtain ⟨ls, hls, hlines⟩ := ih
    rw [termLines]
    split
    · refine ⟨ls, ?_, hlines⟩
      rw [Report.outcome_bind]
      exact hls
    · have hends : EndsSolid ('[' :: flatten term.name ++ ']' :: '(' :: Url.sanitize term.url ++
          [')']) := EndsSolid.append ⟨')', rfl, rfl⟩ _
      have hsingle : '\n' ∉ '[' :: flatten term.name ++ ']' :: '(' :: Url.sanitize term.url ++
          [')'] := by
        simp [newline_not_mem_flatten, newline_not_mem_sanitize]
      refine ⟨_ :: ls, ?_, List.forall_mem_cons.mpr ⟨⟨_, rfl, hends, hsingle⟩, hlines⟩⟩
      rw [Report.outcome_bind, hls]
      rfl

/-- Further taxonomies have sections, as long as their keys are on one line. -/
theorem exists_taxonomyPieces {taxonomies : List Taxonomy}
    (hkeys : ∀ taxonomy ∈ taxonomies, '\n' ∉ taxonomy.key) :
    ∃ pieces, (taxonomyPieces taxonomies).outcome = .ok pieces ∧
      ∀ piece ∈ pieces, IsSection piece := by
  induction taxonomies with
  | nil => exact ⟨[], rfl, by simp⟩
  | cons taxonomy others ih =>
    obtain ⟨hkey, hothers⟩ := List.forall_mem_cons.mp hkeys
    obtain ⟨pieces, hpieces, hall⟩ := ih hothers
    obtain ⟨ls, hls, hlines⟩ := exists_termLines taxonomy.terms
    rw [taxonomyPieces]
    split
    · exact ⟨pieces, hpieces, hall⟩
    · rw [Report.outcome_bind, hls, Except.bind, Report.outcome_bind, hpieces, Except.bind]
      cases ls with
      | nil => exact ⟨pieces, rfl, hall⟩
      | cons line ls =>
        have hheading : '\n' ∉ firstFilled (flatten taxonomy.label) taxonomy.key ++
            " (\x60".toList ++ taxonomy.key ++ "\x60)".toList := by
          have hlabel := not_mem_firstFilled (newline_not_mem_flatten taxonomy.label) hkey
          simp [hlabel, hkey]
        have hsection := IsSection.listed hheading (List.cons_ne_nil line ls) hlines
        exact ⟨_, rfl, List.forall_mem_cons.mpr ⟨hsection, hall⟩⟩

/-- The section on further taxonomies, if there is one. -/
theorem exists_taxonomySection {taxonomies : List Taxonomy}
    (hkeys : ∀ taxonomy ∈ taxonomies, '\n' ∉ taxonomy.key) :
    ∃ t, (taxonomySection taxonomies).outcome = .ok t ∧ (t = [] ∨ IsSection t) := by
  obtain ⟨pieces, hpieces, hall⟩ := exists_taxonomyPieces hkeys
  rw [taxonomySection, Report.outcome_bind, hpieces, Except.bind]
  cases pieces with
  | nil => exact ⟨[], rfl, .inl rfl⟩
  | cons piece pieces => exact ⟨_, rfl, .inr (.grouped (by decide) hall)⟩

/-- The inventory is listed on lines. -/
theorem isListed_renderLines (images : Registry) : ∀ l ∈ images.renderLines, IsListed l := by
  intro l hl
  obtain ⟨r, -, rfl⟩ := List.mem_map.mp hl
  exact ⟨_, rfl, EndsSolid.append ⟨')', rfl, rfl⟩ _, newline_not_mem_imageMarkdown _ _ _⟩

/-- The section of a list, if there is one. -/
theorem isSection_linesSection {heading : String} {ls : List Text}
    (hheading : '\n' ∉ heading.toList) (h : ∀ l ∈ ls, IsListed l) :
    ∀ piece ∈ linesSection heading ls, IsSection piece := by
  cases ls with
  | nil => simp [linesSection]
  | cons line ls =>
    intro piece hpiece
    rw [List.mem_singleton.mp hpiece]
    exact .listed hheading (List.cons_ne_nil _ _) h

/-! ## Documents -/

/-- The conversion of markup comes to the end of a walk: there is nothing to walk, or a tree and
room for it, and no string in reach is refused. -/
def WalksThrough (env : Environment) (settings : Option ConvertSettings) (markup : Text) : Prop :=
  isAllBlank markup = true ∨ ∃ nodes t, Walks env settings markup nodes ∧
    (Converter.make env (ConvertSettings.inUse env settings)).documentText (bodyOf nodes) = .ok t

section

variable {env : Environment} {settings : Option ConvertSettings} {markup : Text}

/-- Settled Markdown is nothing or a piece. -/
theorem isPiece_settle (t : Text) : Converter.settle t = [] ∨ IsPiece (Converter.settle t) := by
  by_cases hempty : Converter.settle t = []
  · exact .inl hempty
  · exact .inr ⟨(isTrimmed_trim _).isSolid hempty, not_hasBlankRun_settle t⟩

/-- A walk to the end leaves nothing or a piece. -/
theorem WalksThrough.exists_ofHtml (h : WalksThrough env settings markup) :
    ∃ t, (ofHtml env settings markup).outcome = .ok t ∧ (t = [] ∨ IsPiece t) := by
  rcases h with hblank | ⟨nodes, t, hwalks, htext⟩
  · rw [ofHtml_outcome, hblank]
    exact ⟨[], rfl, .inl rfl⟩
  · refine ⟨t, hwalks.ofHtml_outcome.trans htext, ?_⟩
    rw [Converter.documentText_eq, unlessRefused_eq_ok_iff] at htext
    obtain ⟨-, rfl⟩ := htext
    exact isPiece_settle _

/-- Images are registered where the content is walked to the end. -/
theorem WalksThrough.exists_imageRegistry (h : WalksThrough env settings markup)
    (post : Metadata) :
    ∃ images, (imageRegistry env settings post markup).outcome = .ok images := by
  rcases h with hblank | ⟨nodes, -, hwalks, -⟩
  · rw [imageRegistry, if_pos hblank]
    exact ⟨_, rfl⟩
  · exact ⟨_, hwalks.imageRegistry_outcome post⟩

/-- The sections of the metadata are the summary, if the excerpt has one, and further sections, of
which there is at least one. There are none only where the excerpt or the inventory is a fault. -/
theorem metadataSections_outcome {post : Metadata} {content excerpt : Text} {images : Registry}
    (hkeys : ∀ taxonomy ∈ post.taxonomies, '\n' ∉ taxonomy.key)
    (hexcerpt : (ofHtml env settings post.excerpt).outcome = .ok excerpt)
    (himages : (imageRegistry env settings post content).outcome = .ok images) :
    ∃ further, further ≠ [] ∧ (∀ piece ∈ further, IsSection piece) ∧
      (metadataSections env settings post content).outcome =
        .ok ((if (trim excerpt).isEmpty then []
          else [sectionText "Summary".toList (trim excerpt)]) ++ further) := by
  obtain ⟨categories, hcategories, hcategoryLines⟩ := exists_termLines post.categories
  obtain ⟨custom, hcustom, hcustomSection⟩ := exists_taxonomySection hkeys
  obtain ⟨tags, htags, htagLines⟩ := exists_termLines post.tags
  have hcategory : IsSection (sectionText "Category".toList
      (if categories.isEmpty then "_(none)_".toList else unlines categories)) := by
    cases categories with
    | nil => exact .bare (by decide)
    | cons line ls => exact .listed (by decide) (List.cons_ne_nil _ _) hcategoryLines
  have hcustomAll : ∀ piece ∈ if custom.isEmpty then [] else [custom], IsSection piece := by
    split
    · exact List.forall_mem_nil _
    · rename_i hfilled
      exact List.forall_mem_singleton.mpr (hcustomSection.resolve_left (by simpa using hfilled))
  refine ⟨[sectionText "Category".toList
      (if categories.isEmpty then "_(none)_".toList else unlines categories)] ++
    (if custom.isEmpty then [] else [custom]) ++
    linesSection "Tag" tags ++ linesSection "Images" images.renderLines, ?_, ?_, ?_⟩
  · simp only [ne_eq, List.append_eq_nil_iff, List.cons_ne_nil, false_and, not_false_eq_true]
  · simp only [List.forall_mem_append]
    exact ⟨⟨⟨List.forall_mem_singleton.mpr hcategory, hcustomAll⟩,
      isSection_linesSection (by decide) htagLines⟩,
      isSection_linesSection (by decide) (isListed_renderLines images)⟩
  · rw [metadataSections]
    split
    · rename_i hnone
      rw [List.isEmpty_iff.mp hnone, ofHtml_nil]
        at hexcerpt
      obtain rfl := Except.ok.inj hexcerpt
      simp only [Report.outcome_bind, hcategories, hcustom, htags, himages, List.append_assoc]
      rfl
    · simp only [Report.outcome_bind, hexcerpt, hcategories, hcustom, htags, himages,
        List.append_assoc]
      rfl

/-- The sections of the metadata are pieces, and there is at least one. -/
theorem exists_metadataSections {post : Metadata} {content : Text}
    (hkeys : ∀ taxonomy ∈ post.taxonomies, '\n' ∉ taxonomy.key)
    (hexcerpt : WalksThrough env settings post.excerpt)
    (hcontent : WalksThrough env settings content) :
    ∃ sections, (metadataSections env settings post content).outcome = .ok sections ∧
      sections ≠ [] ∧ ∀ piece ∈ sections, IsPiece piece := by
  obtain ⟨excerpt, hofHtml, hexcerptPiece⟩ := hexcerpt.exists_ofHtml
  obtain ⟨images, himages⟩ := hcontent.exists_imageRegistry post
  obtain ⟨further, hne, hfurther, hsections⟩ := metadataSections_outcome hkeys hofHtml himages
  have hsummary : ∀ piece ∈ if (trim excerpt).isEmpty then [] else
      [sectionText "Summary".toList (trim excerpt)], IsPiece piece := by
    rcases hexcerptPiece with rfl | hpiece
    · exact List.forall_mem_nil _
    · rw [hpiece.solid.isTrimmed.trim_eq]
      split
      · exact List.forall_mem_nil _
      · exact List.forall_mem_singleton.mpr (isPiece_sectionText (by decide) hpiece)
  refine ⟨_, hsections, fun hnil => hne (List.append_eq_nil_iff.mp hnil).2, ?_⟩
  exact List.forall_mem_append.mpr ⟨hsummary, fun piece hpiece => (hfurther piece hpiece).isPiece⟩

end

/-- With taxonomy keys on one line, and an excerpt and a content that are walked to the end, a
document is composed. It begins with the line of its flattened title, it has no run of blank lines,
and it ends with a character that is not blank and one line feed behind it. -/
theorem compose_settled (env : Environment) (settings : Option ConvertSettings) (post : Metadata)
    (content : Text) (hkeys : ∀ taxonomy ∈ post.taxonomies, '\n' ∉ taxonomy.key)
    (hexcerpt : WalksThrough env settings post.excerpt)
    (hcontent : WalksThrough env settings content) :
    ∃ document, (compose env settings post content).outcome = .ok document ∧
      (∃ rest, document = "title: ".toList ++ flatten post.title ++ '\n' :: rest) ∧
      (∀ c ∈ flatten post.title, isBreak c = false) ∧
      ¬ HasBlankRun document ∧
      ∃ front c, document = front ++ [c, '\n'] ∧ isBlank c = false := by
  obtain ⟨sections, hsections, hne, hpieces⟩ := exists_metadataSections hkeys hexcerpt hcontent
  obtain ⟨body, hofHtml, hbody⟩ := hcontent.exists_ofHtml
  have hmetadata : IsPiece (paragraphs sections) := isPiece_paragraphs hne hpieces
  have hdivider : IsPiece divider :=
    IsLine.isPiece ⟨⟨⟨'-', rfl, rfl⟩, '-', rfl, rfl⟩, by decide⟩
  have hshown : IsPiece (firstFilled (trim body) "_(no content)_".toList) := by
    rcases hbody with rfl | hbody
    · exact IsLine.isPiece ⟨⟨⟨'_', rfl, rfl⟩, '_', rfl, rfl⟩, by decide⟩
    · rw [hbody.solid.isTrimmed.trim_eq, firstFilled, if_neg]
      · exact hbody
      · simpa using hbody.solid.starts.ne_nil
  -- All that stands behind the title line is one piece.
  have hrest : IsPiece (paragraphs [divider, paragraphs sections, divider,
      firstFilled (trim body) "_(no content)_".toList]) := by
    refine isPiece_paragraphs (List.cons_ne_nil _ _) ?_
    simp only [List.forall_mem_cons, List.not_mem_nil, false_implies, implies_true, and_true]
    exact ⟨hdivider, hmetadata, hdivider, hshown⟩
  generalize hpiece : paragraphs [divider, paragraphs sections, divider,
    firstFilled (trim body) "_(no content)_".toList] = piece at hrest
  have hdocument : (compose env settings post content).outcome =
      .ok ("title: ".toList ++ flatten post.title ++ '\n' :: '\n' :: piece ++ ['\n']) := by
    rw [compose, Report.outcome_bind, hsections, Except.bind, Report.outcome_bind, hofHtml,
      Except.bind, paragraphs_cons_cons, hpiece]
    rfl
  have htitle : '\n' ∉ "title: ".toList ++ flatten post.title := by
    have hflat := newline_not_mem_flatten post.title
    simp [hflat]
  obtain ⟨c, hlast, hsolid⟩ := hrest.solid.ends
  obtain ⟨front, hfront⟩ := List.getLast?_eq_some_iff.mp hlast
  refine ⟨_, hdocument, ⟨'\n' :: piece ++ ['\n'], by simp⟩,
    (isFlat_flatten _).isBreak_eq_false, ?_, ?_⟩
  · have hends : EndsSolid ('\n' :: '\n' :: piece) := (hrest.solid.ends.cons '\n').cons '\n'
    rw [List.append_assoc, hasBlankRun_append_of_line htitle, hasBlankRun_append hends, not_or]
    have hfeed : ¬ HasBlankRun ['\n'] := by simp [hasBlankRun_cons, not_hasBlankRun_nil]
    exact ⟨(not_hasBlankRun_feeds hrest.solid.starts hrest.settled).2, hfeed⟩
  · exact ⟨"title: ".toList ++ flatten post.title ++ '\n' :: '\n' :: front, c, by simp [hfront],
      hsolid⟩

/-- Metadata with empty lines in almost every field. -/
def gappyPost : Metadata where
  title := "a \n\n b".toList
  excerpt := "<p>c</p>\n\n\n<p>d</p>".toList
  categories := [⟨"\n".toList, "/e\n\n\nf".toList⟩]
  taxonomies := [⟨"k".toList, "\n\n".toList, [⟨"g\n\n\nh".toList, "/i".toList⟩]⟩]
  featuredImage := some ⟨"/j".toList, "\n".toList, "m\n\nn".toList⟩

/-- A document with that metadata and a preformatted body. -/
def gappyDocument : Text :=
  "title: a b\n\n---\n\n**Summary**\n\nc\n\nd\n\n**Category**\n\n- [](/ef)\n\n".toList ++
    "**Custom Taxonomies**\n\n**k (\x60k\x60)**\n\n- [g h](/i)\n\n".toList ++
    "**Images**\n\n- ![m n](/j \x22m n\x22)\n\n---\n\n\x60\x60\x60\no\n\np\n\x60\x60\x60\n".toList

theorem compose_settled_gappyPost :
    let content := "<pre>o\n\n\n\np</pre>".toList
    (∀ taxonomy ∈ gappyPost.taxonomies, '\n' ∉ taxonomy.key) ∧
      WalksThrough {} none gappyPost.excerpt ∧ WalksThrough {} none content ∧
      (compose {} none gappyPost content).outcome = .ok gappyDocument ∧
      ¬ HasBlankRun gappyDocument ∧
      ∃ front c, gappyDocument = front ++ [c, '\n'] ∧ isBlank c = false := by
  have hkeys : ∀ taxonomy ∈ gappyPost.taxonomies, '\n' ∉ taxonomy.key := by decide
  have hexcerpt : WalksThrough {} none gappyPost.excerpt :=
    .inr ⟨[.element "p".toList [] [.text .plain "c".toList], .text .plain "\n".toList,
      .element "p".toList [] [.text .plain "d".toList]], "c\n\nd".toList,
      ⟨by decide, rfl, rfl⟩, by decide +kernel⟩
  have hcontent : WalksThrough {} none "<pre>o\n\n\n\np</pre>".toList :=
    .inr ⟨[.element "pre".toList [] [.text .plain "o\n\n\n\np".toList]],
      "\x60\x60\x60\no\n\np\n\x60\x60\x60".toList,
      ⟨by decide, rfl, rfl⟩, by decide +kernel⟩
  have hcomposed : (compose {} none gappyPost "<pre>o\n\n\n\np</pre>".toList).outcome =
      .ok gappyDocument := by decide +kernel
  obtain ⟨document, hdocument, -, -, hsettled, hend⟩ :=
    compose_settled {} none gappyPost _ hkeys hexcerpt hcontent
  obtain rfl := Except.ok.inj (hdocument.symm.trans hcomposed)
  exact ⟨hkeys, hexcerpt, hcontent, hcomposed, hsettled, hend⟩

end PageMarkdown.Markdown
