import PageMarkdown.Page.Article
import PageMarkdown.Proofs.Conversion
import PageMarkdown.Proofs.Html.Markup

/-!
# The choice of an article

What an extractor found is taken when it has enough text and has not lost the images
of the page. Otherwise a part of the page is taken that has enough text, or an image
where the page has one, and what was found only when there is no such part. So
enough text is given up for an image, when none is in what was found, and for
nothing else.
-/

namespace PageMarkdown.Page

open Text Html Markdown

variable {env : Environment}

/-- A part of a page is parsed as its markup is. -/
theorem outcome_parsePage {markup : Text} {nodes : List Node} :
    (parsePage env markup).outcome = .ok nodes ↔ parse env.stray markup = .ok nodes :=
  Report.outcome_ofExcept_eq_ok_iff.trans Environment.build_eq_ok_iff

/-- What is extracted of a page is the markup of the part that is chosen, with its references
resolved, and what the page says of itself. -/
theorem exists_of_extractContent {markup url html : Text} {extractArticle : Bool}
    {extract : Extract} {post : Metadata}
    (h : (extractContent env markup url extractArticle extract).outcome = .ok (post, html)) :
    ∃ page chosen title content image, parse env.stray markup = .ok page ∧
      (chosenPart env markup extractArticle extract page).outcome = .ok (chosen, title) ∧
      absolutizeLinks url chosen = .ok content ∧ html = markupOf content ∧
      post =
        { title := firstFilled (firstFilled title (ownTitle page)) url
          excerpt := (metaContent [("name".toList, "description".toList)] page).getD []
          featuredImage := image
          sourceUrl := some url } := by
  rw [extractContent] at h
  obtain ⟨page, hpage, h⟩ := (Report.outcome_andThen_eq_ok_iff ..).mp h
  obtain ⟨⟨chosen, title⟩, hchosen, h⟩ := (Report.outcome_andThen_eq_ok_iff ..).mp h
  obtain ⟨content, hcontent, h⟩ := (Report.outcome_andThen_eq_ok_iff ..).mp h
  obtain ⟨image, -, h⟩ := (Report.outcome_andThen_eq_ok_iff ..).mp h
  obtain ⟨hpost, hhtml⟩ := Prod.mk.inj (Except.ok.inj h)
  exact ⟨page, chosen, title, content, image, outcome_parsePage.mp hpage, hchosen,
    Report.outcome_ofExcept_eq_ok_iff.mp hcontent, hhtml.symm, hpost.symm⟩

/-- A part of the page that is taken instead of what an extractor found: one of its scopes, without
noise and surroundings, with enough text or with an image of the page. -/
structure IsWider (env : Environment) (pageHasImage : Bool) (scopes : List Text)
    (content : List Node) : Prop where
  /-- It is what is left of a scope. -/
  scope : ∃ markup ∈ scopes, ∃ nodes, parse env.stray markup = .ok nodes ∧
    content = cleanContent true nodes
  /-- It has enough text, or an image where the page has one. -/
  accepted : enoughText ≤ textLength content ∨ pageHasImage = true ∧ hasImage content = true

/-- A wider scope that is found is one of those that were tried. -/
theorem isWider_of_widerScope {pageHasImage : Bool} {scopes : List Text} {found : List Node}
    (h : (widerScope env pageHasImage scopes).outcome = .ok (some found)) :
    IsWider env pageHasImage scopes found := by
  induction scopes with
  | nil => cases h
  | cons markup others ih =>
    rw [widerScope] at h
    obtain ⟨nodes, hnodes, h⟩ := (Report.outcome_andThen_eq_ok_iff ..).mp h
    dsimp only at h
    split at h
    · rename_i haccepted
      obtain ⟨_, _, h⟩ := (Report.outcome_andThen_eq_ok_iff ..).mp h
      obtain rfl := Option.some.inj (Except.ok.inj h)
      exact ⟨⟨markup, List.mem_cons_self, nodes, outcome_parsePage.mp hnodes, rfl⟩,
        by simpa using haccepted⟩
    · obtain ⟨⟨scope, hscope, hfound⟩, haccepted⟩ := ih h
      exact ⟨⟨scope, List.mem_cons_of_mem _ hscope, hfound⟩, haccepted⟩

section

variable {summary : Except Failure Text} {found : Text} {page nodes content : List Node}

/-- Once what was found is parsed, it is taken if it will do, and otherwise if nothing wider is
found. -/
theorem outcome_selectArticle (hfound : (summaryMarkup summary).outcome = .ok found)
    (h : (parsePage env found).outcome = .ok nodes) :
    (selectArticle env summary page).outcome =
      if enoughText ≤ textLength (cleanContent false nodes) ∧
          (hasImage (cleanContent false nodes) = true ∨ hasImage page = false) then
        .ok (cleanContent false nodes)
      else (widerScope env (hasImage page) (scopes page)).outcome.map
        (·.getD (cleanContent false nodes)) := by
  have hkept : (decide (enoughText ≤ textLength (cleanContent false nodes)) &&
      (hasImage (cleanContent false nodes) || !hasImage page)) = true ↔
      enoughText ≤ textLength (cleanContent false nodes) ∧
        (hasImage (cleanContent false nodes) = true ∨ hasImage page = false) := by simp
  rw [selectArticle, Report.outcome_bind, hfound, Except.bind, Report.outcome_bind, h]
  show (if _ then _ else _ : Report (List Node)).outcome = _
  simp only [hkept]
  split
  · rfl
  · rw [Report.outcome_bind]
    cases (widerScope env (hasImage page) (scopes page)).outcome with
    | error e => rfl
    | ok wider => cases wider <;> rfl

/-- Nothing is selected unless an extractor has found something that can be parsed. -/
theorem exists_of_selectArticle (h : (selectArticle env summary page).outcome = .ok content) :
    ∃ found nodes, (summaryMarkup summary).outcome = .ok found ∧
      (parsePage env found).outcome = .ok nodes := by
  rw [selectArticle] at h
  obtain ⟨found, hfound, h⟩ := (Report.outcome_andThen_eq_ok_iff ..).mp h
  obtain ⟨nodes, hnodes, -⟩ := (Report.outcome_andThen_eq_ok_iff ..).mp h
  exact ⟨found, nodes, hfound, hnodes⟩

/-- The article is what was found, or something wider when that has too little text or has lost the
images of the page. -/
theorem eq_or_isWider_of_selectArticle (hfound : (summaryMarkup summary).outcome = .ok found)
    (hsummary : (parsePage env found).outcome = .ok nodes)
    (h : (selectArticle env summary page).outcome = .ok content) :
    content = cleanContent false nodes ∨
      (textLength (cleanContent false nodes) < enoughText ∨
          hasImage (cleanContent false nodes) = false ∧ hasImage page = true) ∧
        IsWider env (hasImage page) (scopes page) content := by
  rw [outcome_selectArticle hfound hsummary] at h
  split at h
  · exact .inl (Except.ok.inj h).symm
  · rename_i hthin
    cases hwider : (widerScope env (hasImage page) (scopes page)).outcome with
    | error e =>
      rw [hwider] at h
      cases h
    | ok wider =>
      rw [hwider] at h
      cases wider with
      | none => exact .inl (Except.ok.inj h).symm
      | some scope =>
        obtain rfl : scope = content := Except.ok.inj h
        rw [Decidable.not_and_iff_or_not, Nat.not_le] at hthin
        exact .inr ⟨by simpa using hthin, isWider_of_widerScope hwider⟩

/-- An article that was found with enough text is kept when it has an image or the page has none.
Otherwise something with less text may be taken instead, but only something with an image. -/
theorem selectArticle_full (hfound : (summaryMarkup summary).outcome = .ok found)
    (hsummary : parse env.stray found = .ok nodes)
    (hfull : enoughText ≤ textLength (cleanContent false nodes))
    (h : (selectArticle env summary page).outcome = .ok content) :
    (enoughText ≤ textLength content ∨ hasImage content = true ∧
      hasImage page = true ∧ hasImage (cleanContent false nodes) = false) ∧
    (hasImage (cleanContent false nodes) = true ∨ hasImage page = false →
      content = cleanContent false nodes) := by
  rcases eq_or_isWider_of_selectArticle hfound (outcome_parsePage.mpr hsummary) h with
    rfl | ⟨hthin, hwider⟩
  · exact ⟨.inl hfull, fun _ => rfl⟩
  · -- The text was enough, so the images of the page were missing.
    obtain ⟨hlost, hpage⟩ := hthin.resolve_left (Nat.not_lt.mpr hfull)
    refine ⟨hwider.accepted.imp_right fun himage => ⟨himage.2, hpage, hlost⟩, fun hkept => ?_⟩
    rcases hkept with himage | hnone
    · rw [hlost] at himage
      cases himage
    · rw [hpage] at hnone
      cases hnone

end

/-! ## A text in place of images -/

/-- A text that is just enough for an article. -/
def longText : Text := List.replicate enoughText 'x'

theorem parse_longText (stray : Nat → Char) :
    parse stray longText = .ok [.text .plain longText] := by
  have hescaped : escape longText = longText := by decide +kernel
  have hparsed : parse stray (escape longText) = .ok [.text .plain longText] :=
    parse_escape (by decide +kernel)
  rwa [hescaped] at hparsed

theorem textLength_longText :
    textLength (cleanContent false [.text .plain longText]) = enoughText := by
  decide +kernel

/-- An article of that text loses against whatever is found on a page with an image. -/
theorem outcome_selectArticle_longText {page : List Node} (h : hasImage page = true) :
    (selectArticle env (.ok longText) page).outcome =
      (widerScope env true (scopes page)).outcome.map
        (·.getD (cleanContent false [.text .plain longText])) := by
  have hsummary : (parsePage env longText).outcome = .ok [.text .plain longText] :=
    outcome_parsePage.mpr (parse_longText _)
  have hlost : hasImage (cleanContent false [.text .plain longText]) = false := rfl
  rw [outcome_selectArticle rfl hsummary, h, hlost, if_neg (by simp)]

/-- A page with an image below little text. -/
def illustratedPage : List Node :=
  [.element "main".toList [] [.text .plain "y".toList],
    .element "article".toList []
      [.element "img".toList [("src".toList, .single "z".toList)] [], .text .plain "t".toList]]

/-- The part of that page with the image. -/
def illustration : List Node :=
  [.element "article".toList []
    [.element "img".toList [("src".toList, .single "z".toList)] [], .text .plain "t".toList]]

theorem selectArticle_full_illustration :
    (summaryMarkup (.ok longText)).outcome = .ok longText ∧
      parse (Environment.stray {}) longText = .ok [.text .plain longText] ∧
      enoughText ≤ textLength (cleanContent false [.text .plain longText]) ∧
      (selectArticle {} (.ok longText) illustratedPage).outcome = .ok illustration ∧
      (enoughText ≤ textLength illustration ∨ hasImage illustration = true ∧
        hasImage illustratedPage = true ∧
          hasImage (cleanContent false [.text .plain longText]) = false) := by
  have hselected : (selectArticle {} (.ok longText) illustratedPage).outcome =
      .ok illustration := by
    rw [outcome_selectArticle_longText (by decide)]
    rfl
  have hsummary := parse_longText (Environment.stray {})
  have hfull : enoughText ≤ textLength (cleanContent false [.text .plain longText]) :=
    textLength_longText.ge
  exact ⟨rfl, hsummary, hfull, hselected, (selectArticle_full rfl hsummary hfull hselected).1⟩

/-- A page of one image. -/
def imagePage : List Node :=
  [.element "main".toList []
    [.element "img".toList [("src".toList, .single "a.png".toList)] []]]

/-- The image of a page is taken instead of an article with enough text, and has no text at all. -/
theorem selectArticle_prefers_image :
    parse (Environment.stray {}) "<main><img src=a.png></main>".toList = .ok imagePage ∧
      parse (Environment.stray {}) longText = .ok [.text .plain longText] ∧
      textLength (cleanContent false [.text .plain longText]) = enoughText ∧
      (selectArticle {} (.ok longText) imagePage).outcome = .ok imagePage ∧
      textLength imagePage = 0 := by
  refine ⟨by rfl, parse_longText _, textLength_longText, ?_, by decide⟩
  rw [outcome_selectArticle_longText (by decide)]
  rfl

end PageMarkdown.Page
