import PageMarkdown.Proofs.NormalForm

/-!
# Taking documents apart

A document is cut at its first two lines that are dividers. No line of a section is
one, apart from those of the summary, whose Markdown may be of any shape. So what
the cut finds between the dividers is the metadata exactly when no line of the
summary is a divider; the title line and the body do not matter.
-/

namespace PageMarkdown.Markdown

open Text Html

/-! ## Cutting -/

/-- The lines in front of the first divider and the lines behind it. -/
def cutAtDivider : List Text → Option (List Text × List Text)
  | [] => none
  | line :: ls =>
    if line = divider then some ([], ls)
    else (cutAtDivider ls).map fun found => (line :: found.1, found.2)

/-- A document taken apart at its first two dividers: what is in front of them, between them and
behind them, without the empty lines next to the dividers and the line feed at the end. -/
def takeApart? (document : Text) : Option (Text × Text × Text) :=
  (cutAtDivider (document.splitOn '\n')).bind fun (front, rest) =>
    (cutAtDivider rest).map fun (middle, back) =>
      (unlines front.dropLast, unlines middle.tail.dropLast, unlines back.tail.dropLast)

/-- The text has no line that is a divider. -/
def IsUndivided (t : Text) : Prop := divider ∉ t.splitOn '\n'

theorem cutAtDivider_append {front : List Text} (h : divider ∉ front) (rest : List Text) :
    cutAtDivider (front ++ divider :: rest) = some (front, rest) := by
  induction front with
  | nil => rw [List.nil_append, cutAtDivider, if_pos rfl]
  | cons line front ih =>
    obtain ⟨hline, hfront⟩ := not_or.mp (mt List.mem_cons.mpr h)
    rw [List.cons_append, cutAtDivider, if_neg (Ne.symm hline), ih hfront]
    rfl

/-- The lines in front of a divider that is cut at are lines of the document and none of them is a
divider. -/
theorem cutAtDivider_eq_some {ls front rest : List Text}
    (h : cutAtDivider ls = some (front, rest)) :
    ls = front ++ divider :: rest ∧ divider ∉ front := by
  induction ls generalizing front with
  | nil => cases h
  | cons line ls ih =>
    rw [cutAtDivider] at h
    split at h
    · rename_i hline
      obtain ⟨rfl, rfl⟩ := Prod.mk.inj (Option.some.inj h)
      exact ⟨by rw [hline, List.nil_append], List.not_mem_nil⟩
    · rename_i hline
      obtain ⟨⟨found, behind⟩, hfound, hcut⟩ := Option.map_eq_some_iff.mp h
      obtain ⟨rfl, rfl⟩ := Prod.mk.inj hcut
      obtain ⟨rfl, hnone⟩ := ih hfound
      exact ⟨rfl, fun hmem => (List.mem_cons.mp hmem).elim (fun heq => hline heq.symm) hnone⟩

/-! ## Lines of joined texts -/

theorem splitOn_line {line : Text} (h : '\n' ∉ line) : line.splitOn '\n' = [line] :=
  List.splitOn_eq_singleton h

/-- No line has a line feed in it. -/
theorem newline_not_mem_of_mem_splitOn {t line : Text} (h : line ∈ t.splitOn '\n') :
    '\n' ∉ line := by
  induction t generalizing line with
  | nil =>
    obtain rfl : line = [] := by simpa using h
    exact List.not_mem_nil
  | cons c t ih =>
    rw [List.splitOn_cons_eq_if_modifyHead] at h
    split at h
    · rcases List.mem_cons.mp h with rfl | h
      · exact List.not_mem_nil
      · exact ih h
    · rename_i hc
      obtain ⟨first, ls, hsplit⟩ := List.exists_cons_of_ne_nil (List.splitOn_ne_nil '\n' t)
      rw [hsplit, List.modifyHead_cons] at h
      have hfirst := ih (hsplit ▸ List.mem_cons_self)
      rcases List.mem_cons.mp h with rfl | h
      · intro hmem
        rcases List.mem_cons.mp hmem with rfl | hmem
        · exact hc rfl
        · exact hfirst hmem
      · exact ih (hsplit ▸ List.mem_cons_of_mem _ h)

/-- The lines of a text behind a line feed. -/
theorem splitOn_newline_cons (t : Text) : ('\n' :: t).splitOn '\n' = [] :: t.splitOn '\n' := by
  simp [List.splitOn_cons_eq_if_modifyHead]

/-- The lines of two texts with a blank line between them. -/
theorem splitOn_append_gap (t u : Text) :
    (t ++ '\n' :: '\n' :: u).splitOn '\n' = t.splitOn '\n' ++ [] :: u.splitOn '\n' := by
  rw [List.splitOn_append_cons_self, splitOn_newline_cons]

theorem isUndivided_line {line : Text} (h : '\n' ∉ line) (hline : line ≠ divider) :
    IsUndivided line := by
  rw [IsUndivided, splitOn_line h, List.mem_singleton]
  exact Ne.symm hline

/-- Lines one below another have the dividers that they are. -/
theorem isUndivided_unlines {ls : List Text} (hne : ls ≠ []) (hsingle : ∀ l ∈ ls, '\n' ∉ l) :
    IsUndivided (unlines ls) ↔ divider ∉ ls := by
  rw [IsUndivided, unlines, List.splitOn_intercalate '\n' hsingle hne]

/-- Texts with a blank line between them have the dividers that are in one of them. -/
theorem isUndivided_paragraphs (pieces : List Text) :
    IsUndivided (paragraphs pieces) ↔ ∀ piece ∈ pieces, IsUndivided piece := by
  induction pieces with
  | nil => simp [IsUndivided, paragraphs, divider]
  | cons piece pieces ih =>
    rw [List.forall_mem_cons, ← ih]
    cases pieces with
    | nil => simp [IsUndivided, paragraphs, divider]
    | cons next pieces =>
      have hempty : divider ≠ [] := by decide
      rw [paragraphs_cons_cons, IsUndivided, splitOn_append_gap, List.mem_append, List.mem_cons,
        not_or, or_iff_right hempty]
      rfl

/-- What is found between two dividers has none. -/
theorem isUndivided_of_takeApart? {document front middle back : Text}
    (h : takeApart? document = some (front, middle, back)) : IsUndivided middle := by
  obtain ⟨⟨frontLines, rest⟩, hfront, h⟩ := Option.bind_eq_some_iff.mp h
  obtain ⟨⟨middleLines, backLines⟩, hmiddle, h⟩ := Option.map_eq_some_iff.mp h
  obtain ⟨-, hparts⟩ := Prod.mk.inj h
  obtain ⟨rfl, -⟩ := Prod.mk.inj hparts
  obtain ⟨hdocument, -⟩ := cutAtDivider_eq_some hfront
  obtain ⟨rfl, hnone⟩ := cutAtDivider_eq_some hmiddle
  have hinner : ∀ l ∈ middleLines.tail.dropLast, l ∈ middleLines := fun l hl =>
    List.mem_of_mem_tail (List.mem_of_mem_dropLast hl)
  have hsingle : ∀ l ∈ middleLines.tail.dropLast, '\n' ∉ l := fun l hl =>
    newline_not_mem_of_mem_splitOn (t := document) (by simp [hdocument, hinner l hl])
  by_cases hempty : middleLines.tail.dropLast = []
  · simp [hempty, IsUndivided, unlines, divider]
  · exact (isUndivided_unlines hempty hsingle).mpr fun hmem => hnone (hinner _ hmem)

/-- A text of a first line, a metadata block and a body between dividers is taken apart into these
exactly when the metadata have no divider. -/
theorem takeApart?_paragraphs_iff {title middle back : Text} (hsingle : '\n' ∉ title)
    (htitle : title ≠ divider) :
    takeApart? (paragraphs [title, divider, middle, divider, back] ++ ['\n']) =
      some (title, middle, back) ↔ IsUndivided middle := by
  refine ⟨isUndivided_of_takeApart?, fun hmiddle => ?_⟩
  have hdivider : '\n' ∉ divider := by decide
  have hempty : divider ≠ [] := by decide
  have hlines : (paragraphs [title, divider, middle, divider, back] ++ ['\n']).splitOn '\n' =
      [title, []] ++ divider :: ([] :: middle.splitOn '\n' ++ [[]] ++
        divider :: ([] :: back.splitOn '\n' ++ [[]])) := by
    simp only [paragraphs_cons_cons, List.append_assoc, List.cons_append, splitOn_append_gap,
      splitOn_line hsingle, splitOn_line hdivider]
    simp [paragraphs, List.splitOn_append_cons_self]
  have hfront : divider ∉ [title, []] := by
    simp [htitle.symm, hempty]
  have hbetween : divider ∉ [] :: middle.splitOn '\n' ++ [[]] := by
    have hnone : divider ∉ middle.splitOn '\n' := hmiddle
    simp [hnone, hempty]
  rw [takeApart?, hlines, cutAtDivider_append hfront, Option.bind_some]
  dsimp only
  rw [cutAtDivider_append hbetween, Option.map_some]
  simp [unlines]

/-! ## Sections -/

theorem IsListed.ne_divider {l : Text} (h : IsListed l) : divider ≠ l := by
  obtain ⟨t, rfl, -⟩ := h
  simp [divider]

/-- A heading is no divider. -/
theorem isUndivided_bold {t : Text} (h : '\n' ∉ t) : IsUndivided (bold t) := by
  refine isUndivided_line (isLine_bold h).single fun heq => ?_
  simp [bold, divider] at heq

theorem isUndivided_sectionText {heading content : Text} (hheading : '\n' ∉ heading) :
    IsUndivided (sectionText heading content) ↔ IsUndivided content := by
  rw [sectionText, isUndivided_paragraphs]
  simp [isUndivided_bold hheading]

/-- No line of a section is a divider. -/
theorem IsSection.isUndivided {t : Text} (h : IsSection t) : IsUndivided t := by
  induction h with
  | listed hheading hne hls =>
    rw [isUndivided_sectionText hheading,
      isUndivided_unlines hne fun l hl => (hls l hl).isLine.single]
    exact fun hmem => (hls _ hmem).ne_divider rfl
  | bare hheading =>
    rw [isUndivided_sectionText hheading]
    exact isUndivided_line (by decide) (by decide)
  | grouped hheading hpieces ih =>
    exact (isUndivided_paragraphs _).mpr
      (List.forall_mem_cons.mpr ⟨isUndivided_bold hheading, ih⟩)

/-! ## Documents -/

section

variable {env : Environment} {settings : Option ConvertSettings} {post : Metadata}
  {content document : Text}

/-- With taxonomy keys on one line, a composed document is taken apart into its title line, its
metadata and its body exactly when no line of the Markdown of its excerpt is a divider. -/
theorem compose_takeApart_iff (hkeys : ∀ taxonomy ∈ post.taxonomies, '\n' ∉ taxonomy.key)
    (hdocument : (compose env settings post content).outcome = .ok document) :
    ∃ sections body excerpt, (metadataSections env settings post content).outcome = .ok sections ∧
      (ofHtml env settings content).outcome = .ok body ∧
      (ofHtml env settings post.excerpt).outcome = .ok excerpt ∧
      (takeApart? document = some ("title: ".toList ++ flatten post.title, paragraphs sections,
          firstFilled (trim body) "_(no content)_".toList) ↔
        divider ∉ (trim excerpt).splitOn '\n') := by
  obtain ⟨sections, body, hsections, hbody, rfl⟩ := compose_eq_ok_iff.mp hdocument
  obtain ⟨excerpt, images, front, hexcerpt, himages, -⟩ :=
    exists_parts_of_metadataSections hsections
  obtain ⟨further, -, hfurther, heq⟩ := metadataSections_outcome hkeys hexcerpt himages
  obtain rfl := Except.ok.inj (hsections.symm.trans heq)
  refine ⟨_, body, excerpt, hsections, hbody, hexcerpt, ?_⟩
  have hsingle : '\n' ∉ "title: ".toList ++ flatten post.title := by
    have hflat := newline_not_mem_flatten post.title
    simp [hflat]
  have htitle : "title: ".toList ++ flatten post.title ≠ divider := by simp [divider]
  have hsummary : (∀ piece ∈ if (trim excerpt).isEmpty then []
      else [sectionText "Summary".toList (trim excerpt)], IsUndivided piece) ↔
      IsUndivided (trim excerpt) := by
    split
    · rename_i hnone
      simp [List.isEmpty_iff.mp hnone, IsUndivided, divider]
    · rw [List.forall_mem_singleton, isUndivided_sectionText (by decide)]
  rw [takeApart?_paragraphs_iff hsingle htitle, isUndivided_paragraphs, List.forall_mem_append,
    hsummary, and_iff_left fun piece hpiece => (hfurther piece hpiece).isUndivided]
  rfl

end

/-- Metadata whose summary has lines that are almost dividers. -/
def dashedPost : Metadata where
  title := "---".toList
  excerpt := "<pre>----\n ---</pre>".toList
  categories := [⟨"---".toList, "/a".toList⟩]

/-- A document with that metadata and a body of rules. -/
def dashedDocument : Text :=
  "title: ---\n\n---\n\n**Summary**\n\n\x60\x60\x60\n----\n ---\n\x60\x60\x60\n\n".toList ++
    "**Category**\n\n- [---](/a)\n\n---\n\n---\n\nb\n\n---\n".toList

theorem compose_takeApart_iff_dashedPost :
    let content := "<hr>b<hr>".toList
    (∀ taxonomy ∈ dashedPost.taxonomies, '\n' ∉ taxonomy.key) ∧
      (compose {} none dashedPost content).outcome = .ok dashedDocument ∧
      ∃ sections, (metadataSections {} none dashedPost content).outcome = .ok sections ∧
        takeApart? dashedDocument =
          some ("title: ---".toList, paragraphs sections, "---\n\nb\n\n---".toList) := by
  have hkeys : ∀ taxonomy ∈ dashedPost.taxonomies, '\n' ∉ taxonomy.key := by
    simp [dashedPost]
  have hcomposed : (compose {} none dashedPost "<hr>b<hr>".toList).outcome =
      .ok dashedDocument := by decide +kernel
  obtain ⟨sections, body, excerpt, hsections, hbody, hexcerpt, hiff⟩ :=
    compose_takeApart_iff hkeys hcomposed
  have hbodyText : (ofHtml {} none "<hr>b<hr>".toList).outcome = .ok "---\n\nb\n\n---".toList := by
    decide +kernel
  have hexcerptText : (ofHtml {} none dashedPost.excerpt).outcome =
      .ok "\x60\x60\x60\n----\n ---\n\x60\x60\x60".toList := by decide +kernel
  obtain rfl := Except.ok.inj (hbody.symm.trans hbodyText)
  obtain rfl := Except.ok.inj (hexcerpt.symm.trans hexcerptText)
  exact ⟨hkeys, hcomposed, sections, hsections, hiff.mpr (by decide +kernel)⟩

/-- A rule in the excerpt is a line of the summary that is a divider: the document is cut there and
the rest of the metadata is taken for a part of the body. -/
theorem compose_takeApart_ruledExcerpt :
    let post : Metadata := { title := "t".toList, excerpt := "a<hr>b".toList }
    ∃ document sections, (compose {} none post "c".toList).outcome = .ok document ∧
      (metadataSections {} none post "c".toList).outcome = .ok sections ∧
      (ofHtml {} none "c".toList).outcome = .ok "c".toList ∧
      takeApart? document = some ("title: t".toList, "**Summary**\n\na".toList,
        "b\n\n**Category**\n\n_(none)_\n\n---\n\nc".toList) ∧
      takeApart? document ≠ some ("title: t".toList, paragraphs sections, "c".toList) := by
  refine ⟨"title: t\n\n---\n\n**Summary**\n\na\n\n---\n\nb\n\n".toList ++
    "**Category**\n\n_(none)_\n\n---\n\nc\n".toList,
    ["**Summary**\n\na\n\n---\n\nb".toList, "**Category**\n\n_(none)_".toList], ?_⟩
  decide +kernel

end PageMarkdown.Markdown
