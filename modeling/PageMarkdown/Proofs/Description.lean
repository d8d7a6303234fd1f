import PageMarkdown.Page.Fetch
import PageMarkdown.Proofs.ArticleChoice
import PageMarkdown.Proofs.EscapedText
import PageMarkdown.Proofs.Html.LooseText
import PageMarkdown.Proofs.Inventory

/-!
# The description of a page

The description that a page gives of itself is text, but it enters the document as
an excerpt, which is markup. So the summary is what the description comes to when it
is converted. It is the flattened description where the description writes nothing
but itself as markup, and so where no less-than sign in it opens a construct.
-/

namespace PageMarkdown.Page

open Text Html Markdown

/-- The description that a page gives of itself. -/
def description? (page : List Node) : Option Text :=
  metaContent [("name".toList, "description".toList)] page

/-- The document of a page: its title, its summary if there is one, no categories, the inventory of
its images and a body. -/
def pageDocument (title summary : Text) (images : Registry) (body : Text) : Text :=
  paragraphs ["title: ".toList ++ flatten title, divider,
    paragraphs ((if summary.isEmpty then [] else [sectionText "Summary".toList summary]) ++
      sectionText "Category".toList "_(none)_".toList ::
        linesSection "Images" images.renderLines), divider, body] ++ ['\n']

section

variable {env : Environment} {extract : Text → Extract} {settings : FetchSettings}
  {page : FetchedPage} {post : Metadata} {document : Text} {nodes : List Node}

/-- What is extracted of a page has the description as its excerpt, and no terms. -/
theorem description_of_extractContent {markup url content : Text} {extractArticle : Bool}
    {found : Extract} (hparse : parse env.stray markup = .ok nodes)
    (h : (extractContent env markup url extractArticle found).outcome = .ok (post, content)) :
    post.excerpt = (description? nodes).getD [] ∧ post.categories = [] ∧ post.tags = [] ∧
      post.taxonomies = [] := by
  obtain ⟨page, _, _, _, _, hpage, -, -, -, rfl⟩ := exists_of_extractContent h
  obtain rfl := Except.ok.inj (hparse.symm.trans hpage)
  exact ⟨rfl, rfl, rfl, rfl⟩

/-- A page that is no Markdown is extracted and composed. -/
theorem exists_content_of_renderPage (hhtml : page.isMarkdown = false)
    (h : (renderPage env extract settings page).outcome = .ok (post, document)) :
    ∃ content used,
      (extractContent env page.body page.finalUrl settings.extractArticle
        (extract page.body)).outcome = .ok (post, content) ∧
      (ConvertSettings.make env defaultParser settings.maxDepth).outcome = .ok used ∧
      (compose env (some used) post content).outcome = .ok document := by
  rw [renderPage, hhtml, if_neg Bool.false_ne_true] at h
  obtain ⟨⟨found, content⟩, hextracted, h⟩ := (Report.outcome_andThen_eq_ok_iff ..).mp h
  obtain ⟨used, hused, h⟩ := (Report.outcome_andThen_eq_ok_iff ..).mp h
  obtain ⟨composed, hcomposed, h⟩ := (Report.outcome_andThen_eq_ok_iff ..).mp h
  obtain ⟨rfl, rfl⟩ := Prod.mk.inj (Except.ok.inj h)
  exact ⟨content, used, hextracted, hused, hcomposed⟩

/-- Settings that are made keep the name of the parser. -/
theorem parser_of_make {parser : Text} {depth : Int} {used : ConvertSettings}
    (h : (ConvertSettings.make env parser depth).outcome = .ok used) : used.parser = parser := by
  obtain ⟨clamped, -, h⟩ := (Report.outcome_andThen_eq_ok_iff ..).mp h
  rw [← Except.ok.inj h]

/-- A post without terms is composed to a document of the given shape. -/
theorem exists_pageDocument {convert : Option ConvertSettings} {content : Text}
    (hcategories : post.categories = []) (htags : post.tags = [])
    (htaxonomies : post.taxonomies = [])
    (h : (compose env convert post content).outcome = .ok document) :
    ∃ excerpt images body, (ofHtml env convert post.excerpt).outcome = .ok excerpt ∧
      document = pageDocument post.title (trim excerpt) images body := by
  obtain ⟨sections, body, hsections, -, rfl⟩ := compose_eq_ok_iff.mp h
  rw [metadataSections_termless hcategories htags htaxonomies] at hsections
  cases hexcerpt : (ofHtml env convert post.excerpt).outcome with
  | error e =>
    rw [hexcerpt] at hsections
    cases hsections
  | ok excerpt =>
    rw [hexcerpt] at hsections
    cases himages : (imageRegistry env convert post content).outcome with
    | error e =>
      rw [himages] at hsections
      cases hsections
    | ok images =>
      rw [himages] at hsections
      obtain rfl := Except.ok.inj hsections
      exact ⟨excerpt, images, _, rfl, rfl⟩

end

/-- The markup writes nothing but itself, without references: it is all blank, or its document is
the one string that it is. -/
def WritesItself (env : Environment) (t : Text) : Prop :=
  '&' ∉ t ∧ (isAllBlank t = true ∨ parse env.stray t = .ok [.text .plain t])

/-- A text that opens nothing writes itself. -/
theorem writesItself_of_isLoose (env : Environment) {t : Text} (h : Token.isLoose t = true) :
    WritesItself env t := by
  refine ⟨Token.ampersand_not_mem h, ?_⟩
  cases hblank : isAllBlank t with
  | true => exact .inl rfl
  | false => exact .inr (parse_loose h hblank)

/-- Markup that writes itself is flattened. -/
theorem WritesItself.ofHtml_outcome {env : Environment} {used : ConvertSettings} {t : Text}
    (h : WritesItself env t) (hroom : env.stackFull = false)
    (hparser : used.parser = defaultParser) :
    (ofHtml env (some used) t).outcome = .ok (flatten t) := by
  rw [Markdown.ofHtml_outcome]
  split
  · rename_i hblank
    rw [flatten, (trim_eq_nil_iff t).mpr hblank]
    rfl
  · rename_i hfilled
    rw [convertedOrFault, ConvertSettings.inUse, Option.getD_some, hparser,
      Environment.treeOf_of_parse (h.2.resolve_left hfilled), hroom]
    exact documentText_string _ (resolveFrom_plain h.1)

/-- When a page that is no Markdown is rendered, the summary in its document is what the description
of the page comes to as markup. It is the flattened description when that writes nothing but itself,
so in particular when it has no ampersand and no less-than sign in it opens a construct. -/
theorem renderPage_summary {env : Environment} {extract : Text → Extract}
    {settings : FetchSettings} {page : FetchedPage} {post : Metadata} {document d : Text}
    {nodes : List Node} (hhtml : page.isMarkdown = false)
    (hparse : parse env.stray page.body = .ok nodes)
    (hdescription : description? nodes = some d)
    (hrender : (renderPage env extract settings page).outcome = .ok (post, document)) :
    ∃ used excerpt images body,
      (ConvertSettings.make env defaultParser settings.maxDepth).outcome = .ok used ∧
      (ofHtml env (some used) d).outcome = .ok excerpt ∧
      document = pageDocument post.title (trim excerpt) images body ∧
      (env.stackFull = false →
        (WritesItself env d → trim excerpt = flatten d) ∧
        (Token.isLoose d = true → trim excerpt = flatten d)) := by
  obtain ⟨content, used, hextracted, hused, hcomposed⟩ :=
    exists_content_of_renderPage hhtml hrender
  obtain ⟨hexcerpt, hcategories, htags, htaxonomies⟩ :=
    description_of_extractContent hparse hextracted
  obtain ⟨excerpt, images, body, hconverted, hdocument⟩ :=
    exists_pageDocument hcategories htags htaxonomies hcomposed
  rw [hexcerpt, hdescription, Option.getD_some] at hconverted
  have hitself : env.stackFull = false → WritesItself env d → trim excerpt = flatten d := by
    intro hroom h
    have hflat := h.ofHtml_outcome hroom (parser_of_make hused)
    rw [Except.ok.inj (hconverted.symm.trans hflat), (isFlat_flatten d).trimmed.trim_eq]
  exact ⟨used, excerpt, images, body, hused, hconverted, hdocument, fun hroom =>
    ⟨hitself hroom, fun h => hitself hroom (writesItself_of_isLoose env h)⟩⟩

/-- A page of nothing but its description. -/
def describedPage (description : Text) : FetchedPage where
  body := "<meta name=description content='".toList ++ description ++ "'>".toList
  finalUrl := "https://a.test/".toList

/-- The tree of such a page. -/
def describedTree (description : Text) : List Node :=
  [.element "meta".toList [("name".toList, .single "description".toList),
    ("content".toList, .single description)] []]

/-- The metadata of such a page. -/
def describedPost (description : Text) : Metadata where
  title := "https://a.test/".toList
  excerpt := description
  sourceUrl := some "https://a.test/".toList

/-- A run over such a page, all of it. -/
def describedRun (description : Text) : Except Fault (Metadata × Text) :=
  (renderPage {} (fun _ => {}) { extractArticle := false } (describedPage description)).outcome

/-- A description with less-than signs that open nothing. -/
def comparisons : Text := "a  <3 b < c > d <e".toList

theorem renderPage_summary_comparisons :
    (describedPage comparisons).isMarkdown = false ∧
      parse (Environment.stray {}) (describedPage comparisons).body =
        .ok (describedTree comparisons) ∧
      description? (describedTree comparisons) = some comparisons ∧
      Token.isLoose comparisons = true ∧
      ∃ document images body,
        describedRun comparisons = .ok (describedPost comparisons, document) ∧
        document =
          pageDocument "https://a.test/".toList "a <3 b < c > d <e".toList images body := by
  have hparse : parse (Environment.stray {}) (describedPage comparisons).body =
      .ok (describedTree comparisons) := rfl
  have hdescription : description? (describedTree comparisons) = some comparisons := rfl
  have hloose : Token.isLoose comparisons = true := by decide
  have hrun : ∃ document, describedRun comparisons = .ok (describedPost comparisons, document) :=
    ⟨pageDocument "https://a.test/".toList "a <3 b < c > d <e".toList []
      "_(no content)_".toList, by decide +kernel⟩
  obtain ⟨document, hrun⟩ := hrun
  obtain ⟨used, excerpt, images, body, -, -, hdocument, hflat⟩ :=
    renderPage_summary rfl hparse hdescription hrun
  have hsummary : trim excerpt = "a <3 b < c > d <e".toList :=
    ((hflat rfl).2 hloose).trans (by decide)
  rw [hsummary] at hdocument
  exact ⟨rfl, hparse, hdescription, hloose, document, images, body, hrun, hdocument⟩

/-- A description with a word that looks like a tag. -/
def taggedDescription : Text := "Use <b> tags".toList

/-- The word is read as a tag, and the summary is not the description. -/
theorem renderPage_loses_tag :
    parse (Environment.stray {}) (describedPage taggedDescription).body =
        .ok (describedTree taggedDescription) ∧
      description? (describedTree taggedDescription) = some taggedDescription ∧
      describedRun taggedDescription = .ok (describedPost taggedDescription,
        pageDocument "https://a.test/".toList "Use **tags**".toList [] "_(no content)_".toList) ∧
      flatten taggedDescription ≠ "Use **tags**".toList :=
  ⟨rfl, rfl, by decide +kernel, by decide⟩

end PageMarkdown.Page
