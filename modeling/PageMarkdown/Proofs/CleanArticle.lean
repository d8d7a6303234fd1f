import PageMarkdown.Proofs.ArticleChoice
import PageMarkdown.Proofs.Html.WrittenTree

/-!
# Articles without noise

The article of a page is a parsed tree from which noise has been removed, with its
references resolved. So it has no noise, and its markup can be read without any
coming back, unless a declaration in it holds the sign that ends the instruction
it is written as: what is behind that sign is read as markup then.
-/

namespace PageMarkdown.Page

open Text Html Markdown

/-! ## Noise -/

/-- No element is noise. -/
def quietRule : Rule := nameRule fun name => isNoise name = false

/-- A tree that keeps the rule has no elements of a name that is noise. -/
theorem named_eq_nil_of_quiet {nodes : List Node} (h : quietRule.HoldsBelow nodes) {name : Text}
    (hname : isNoise name = true) : Node.named name nodes = [] := by
  refine List.filter_eq_nil_iff.mpr fun node hnode hnamed => ?_
  cases node with
  | text kind content => cases hnamed
  | element n attributes kids =>
    obtain rfl : n = name := by simpa [Node.isNamed] using hnamed
    have hquiet : isNoise n = false := h _ hnode
    rw [hname] at hquiet
    cases hquiet

/-- Raw elements are noise. -/
theorem isRaw_of_quiet {name : Text} (h : isNoise name = false) : Token.isRaw name = false := by
  by_contra hraw
  simp only [Token.isRaw, Bool.not_eq_false, Bool.or_eq_true, decide_eq_true_eq] at hraw
  rcases hraw with rfl | rfl <;> exact absurd h (by decide)

/-! ## Articles -/

/-- What holds of an article: it is like a parsed tree, and has no noise. -/
structure IsClean (nodes : List Node) : Prop where
  /-- It is like a parsed tree. -/
  parsed : parsedRule.HoldsBelow nodes
  /-- It has no noise. -/
  quiet : quietRule.HoldsBelow nodes

/-- Pruned nodes keep a rule that follows from one which the nodes keep and from not being
unwanted. -/
theorem holdsBelow_prune {r q : Rule} {unwanted : Text → Bool} {nodes : List Node}
    (h : r.HoldsBelow nodes)
    (helement : ∀ name attributes, unwanted name = false → r.element name attributes →
      q.element name attributes)
    (hstring : ∀ kind t, r.string kind t → q.string kind t) :
    q.HoldsBelow (prune unwanted nodes) := by
  induction nodes using Node.forest_induction with
  | nil => exact Rule.holdsBelow_nil
  | text kind content others ih =>
    obtain ⟨hcontent, hothers⟩ := (Node.forall_preorderAll_text ..).mp h
    rw [prune, pruneNode]
    exact Rule.holdsBelow_append (Rule.holdsBelow_text (hstring kind content hcontent))
      (ih hothers)
  | element name attributes kids others ihKids ih =>
    obtain ⟨hname, hkids, hothers⟩ := (Node.forall_preorderAll_element ..).mp h
    rw [prune, pruneNode]
    refine Rule.holdsBelow_append ?_ (ih hothers)
    split
    · exact Rule.holdsBelow_nil
    · rename_i hwanted
      have hkept := helement name attributes (by simpa using hwanted) hname
      exact Rule.holdsBelow_element hkept (ihKids hkids)

/-- What is left of a parsed tree without noise is clean. -/
theorem isClean_cleanContent {stray : Nat → Char} {markup : Text} {nodes : List Node}
    (h : parse stray markup = .ok nodes) (stripChrome : Bool) :
    IsClean (cleanContent stripChrome nodes) := by
  have hparsed := parse_keeps h
  refine ⟨holdsBelow_prune hparsed (fun _ _ _ hname => hname) fun _ _ ht => ht, ?_⟩
  refine holdsBelow_prune hparsed (fun name _ hwanted _ => ?_) fun _ _ _ => trivial
  exact (Bool.or_eq_false_iff.mp hwanted).1

/-- Resolving references keeps a rule that does not mind it. -/
theorem holdsBelow_resolveNodes {r : Rule} {base : Text} {nodes : List Node}
    (h : r.HoldsBelow nodes)
    (helement : ∀ name attributes, r.element name attributes →
      r.element name (resolvedAttributes base name attributes)) :
    r.HoldsBelow (resolveNodes base nodes) := by
  induction nodes using Node.forest_induction with
  | nil => exact Rule.holdsBelow_nil
  | text kind content others ih =>
    obtain ⟨hcontent, hothers⟩ := (Node.forall_preorderAll_text ..).mp h
    rw [resolveNodes, resolveNode]
    exact (Node.forall_preorderAll_text ..).mpr ⟨hcontent, ih hothers⟩
  | element name attributes kids others ihKids ih =>
    obtain ⟨hname, hkids, hothers⟩ := (Node.forall_preorderAll_element ..).mp h
    rw [resolveNodes, resolveNode]
    exact (Node.forall_preorderAll_element ..).mpr
      ⟨helement name attributes hname, ihKids hkids, ih hothers⟩

/-- A reference is resolved when it is filled and not one to skip; nothing else is set. -/
theorem resolveIn_eq_ok_iff {base skipped : Text} {key : String} {attributes found : Attributes} :
    resolveIn base key skipped attributes = .ok found ↔
      ((trim (attributes.text key) = [] ∨ skipped <+: trim (attributes.text key)) ∧
          found = attributes) ∨
        (trim (attributes.text key) ≠ [] ∧ ¬ skipped <+: trim (attributes.text key)) ∧
          ∃ url, Url.resolve base (trim (attributes.text key)) = .ok url ∧
            found = attributes.set key.toList (.single url) := by
  rw [resolveIn]
  by_cases hskip : trim (attributes.text key) = [] ∨ skipped <+: trim (attributes.text key)
  · have hskips : ((trim (attributes.text key)).isEmpty ||
        skipped.isPrefixOf (trim (attributes.text key))) = true := by simpa using hskip
    have hnot : ¬ (trim (attributes.text key) ≠ [] ∧ ¬ skipped <+: trim (attributes.text key)) :=
      fun h => hskip.elim h.1 h.2
    rw [if_pos hskips, Except.ok.injEq, eq_comm]
    simp only [hskip, hnot, true_and, false_and, or_false]
  · have hskips : ¬ ((trim (attributes.text key)).isEmpty ||
        skipped.isPrefixOf (trim (attributes.text key))) = true := by simpa using hskip
    have hfilled := not_or.mp hskip
    rw [if_neg hskips]
    simp only [hfilled, false_and, false_or, true_and, not_false_eq_true, ne_eq]
    cases Url.resolve base (trim (attributes.text key)) with
    | error e => simp [Except.map]
    | ok url => simp [Except.map, eq_comm]

/-- Only the reference itself is set when it is resolved. -/
theorem mem_resolveIn {base skipped : Text} {key : String} {attributes resolved : Attributes}
    (h : resolveIn base key skipped attributes = .ok resolved)
    {entry : Text × AttributeValue} (hentry : entry ∈ resolved) :
    entry.1 = key.toList ∨ entry ∈ attributes := by
  rcases resolveIn_eq_ok_iff.mp h with ⟨-, rfl⟩ | ⟨-, url, -, rfl⟩
  · exact .inr hentry
  · exact mem_set hentry

/-- The names of attributes stay keys when a reference is resolved. -/
theorem isKey_of_mem_resolvedAttributes {attributes : Attributes}
    (h : ∀ entry ∈ attributes, Token.IsKey entry.1) (base name : Text) :
    ∀ entry ∈ resolvedAttributes base name attributes, Token.IsKey entry.1 := by
  have hkeys : Token.IsKey "src".toList ∧ Token.IsKey "href".toList :=
    ⟨⟨by simp, by simp [isBlank], by simp⟩, ⟨by simp, by simp [isBlank], by simp⟩⟩
  intro entry hentry
  unfold resolvedAttributes at hentry
  dsimp only at hentry
  split at hentry
  · rename_i found hfound
    split at hfound
    · rcases mem_resolveIn hfound hentry with hname | hmem
      · exact hname ▸ hkeys.1
      · exact h entry hmem
    · split at hfound
      · rcases mem_resolveIn hfound hentry with hname | hmem
        · exact hname ▸ hkeys.2
        · exact h entry hmem
      · obtain rfl := Except.ok.inj hfound
        exact h entry hentry
  · exact h entry hentry

/-- A clean article stays clean when its references are resolved. -/
theorem IsClean.resolveNodes {nodes : List Node} (h : IsClean nodes) (base : Text) :
    IsClean (resolveNodes base nodes) :=
  ⟨holdsBelow_resolveNodes h.parsed fun name _ helement =>
      ⟨helement.1, isKey_of_mem_resolvedAttributes helement.2 base name⟩,
    holdsBelow_resolveNodes h.quiet fun _ _ helement => helement⟩

/-- The references of a tree are resolved when none of either kind has a defect. -/
theorem absolutizeLinks_eq_ok_iff {base : Text} {nodes content : List Node} :
    absolutizeLinks base nodes = .ok content ↔
      firstDefect base "img" "src" "data:".toList nodes = .ok () ∧
        firstDefect base "a" "href" ['#'] nodes = .ok () ∧ content = resolveNodes base nodes := by
  rw [absolutizeLinks]
  cases firstDefect base "img" "src" "data:".toList nodes with
  | error e => simp [bind, Except.bind]
  | ok u =>
    cases firstDefect base "a" "href" ['#'] nodes with
    | error e => simp [bind, Except.bind]
    | ok u => simp [bind, Except.bind, pure, Except.pure, eq_comm]

/-! ## Choosing -/

variable {env : Environment}

/-- The article that is selected is clean. -/
theorem isClean_of_selectArticle {summary : Except Failure Text} {page content : List Node}
    (h : (selectArticle env summary page).outcome = .ok content) : IsClean content := by
  obtain ⟨found, nodes, hfound, hnodes⟩ := exists_of_selectArticle h
  rcases eq_or_isWider_of_selectArticle hfound hnodes h with rfl | ⟨-, hwider⟩
  · exact isClean_cleanContent (outcome_parsePage.mp hnodes) false
  · obtain ⟨markup, -, nodes, hparsed, rfl⟩ := hwider.scope
    exact isClean_cleanContent hparsed true

/-- What a page shows is clean. -/
theorem isClean_of_wholePage {page found : List Node}
    (h : (wholePage env page).outcome = .ok found) : IsClean found := by
  rw [wholePage] at h
  obtain ⟨nodes, hnodes, h⟩ := (Report.outcome_andThen_eq_ok_iff ..).mp h
  obtain rfl := Except.ok.inj h
  exact isClean_cleanContent (outcome_parsePage.mp hnodes) false

/-- What is chosen of a page is clean. -/
theorem isClean_of_chosenPart {markup : Text} {extractArticle : Bool} {extract : Extract}
    {page chosen : List Node} {title : Text}
    (h : (chosenPart env markup extractArticle extract page).outcome = .ok (chosen, title)) :
    IsClean chosen := by
  rw [chosenPart] at h
  split at h
  · obtain ⟨article, harticle, h⟩ := (Report.outcome_andThen_eq_ok_iff ..).mp h
    obtain ⟨extractTitle, -, h⟩ := (Report.outcome_andThen_eq_ok_iff ..).mp h
    obtain ⟨rfl, -⟩ := Prod.mk.inj (Except.ok.inj h)
    exact isClean_of_selectArticle harticle
  · obtain ⟨whole, hwhole, h⟩ := (Report.outcome_andThen_eq_ok_iff ..).mp h
    obtain ⟨rfl, -⟩ := Prod.mk.inj (Except.ok.inj h)
    exact isClean_of_wholePage hwhole

/-- The content of a page as a tree: what is chosen of it, with its references resolved. -/
def contentTree (env : Environment) (markup url : Text) (extractArticle : Bool)
    (extract : Extract) : Report (List Node) := do
  let page ← parsePage env markup
  let (chosen, _) ← chosenPart env markup extractArticle extract page
  Report.ofExcept .url (absolutizeLinks url chosen)

/-- The markup that is extracted is that of the content as a tree. -/
theorem exists_contentTree {markup url html : Text} {extractArticle : Bool} {extract : Extract}
    {post : Metadata}
    (h : (extractContent env markup url extractArticle extract).outcome = .ok (post, html)) :
    ∃ content, (contentTree env markup url extractArticle extract).outcome = .ok content ∧
      html = markupOf content := by
  obtain ⟨page, _, _, content, _, hpage, hchosen, hcontent, hhtml, -⟩ := exists_of_extractContent h
  refine ⟨content, (Report.outcome_andThen_eq_ok_iff ..).mpr
    ⟨page, outcome_parsePage.mpr hpage, ?_⟩, hhtml⟩
  exact (Report.outcome_andThen_eq_ok_iff ..).mpr
    ⟨_, hchosen, Report.outcome_ofExcept_eq_ok_iff.mpr hcontent⟩

/-- The content of a page is clean. -/
theorem isClean_of_contentTree {markup url : Text} {extractArticle : Bool} {extract : Extract}
    {content : List Node}
    (h : (contentTree env markup url extractArticle extract).outcome = .ok content) :
    IsClean content := by
  rw [contentTree] at h
  obtain ⟨page, -, h⟩ := (Report.outcome_andThen_eq_ok_iff ..).mp h
  obtain ⟨⟨chosen, title⟩, hchosen, h⟩ := (Report.outcome_andThen_eq_ok_iff ..).mp h
  obtain ⟨-, -, rfl⟩ := absolutizeLinks_eq_ok_iff.mp (Report.outcome_ofExcept_eq_ok_iff.mp h)
  exact (isClean_of_chosenPart hchosen).resolveNodes url

/-- Where no declaration holds the sign that ends a tag, the markup of a clean tree writes a tree
without noise. -/
theorem IsClean.parse_markupOf {content : List Node} (h : IsClean content) (stray : Nat → Char)
    (hdeclarations : ∀ t, Node.text .declaration t ∈ Node.preorderAll content → '>' ∉ t) :
    ∃ tree, parse stray (markupOf content) = .ok tree ∧ quietRule.HoldsBelow tree := by
  refine Html.parse_markupOf h.parsed fun node hnode => ?_
  cases node with
  | text kind t =>
    rintro rfl
    exact hdeclarations t hnode
  | element name attributes kids =>
    have hquiet : isNoise name = false := h.quiet _ hnode
    exact ⟨isRaw_of_quiet hquiet, hquiet⟩

/-- The content of a page has no noise, and as long as no declaration in it holds the sign that ends
a tag, none comes back when its markup is parsed. -/
theorem extractContent_withoutNoise {markup url html : Text} {extractArticle : Bool}
    {extract : Extract} {post : Metadata}
    (h : (extractContent env markup url extractArticle extract).outcome = .ok (post, html)) :
    ∃ content, (contentTree env markup url extractArticle extract).outcome = .ok content ∧
      html = markupOf content ∧ (∀ name, isNoise name = true → Node.named name content = []) ∧
      ((∀ t, Node.text .declaration t ∈ Node.preorderAll content → '>' ∉ t) →
        ∃ tree, parse env.stray html = .ok tree ∧
          ∀ name, isNoise name = true → Node.named name tree = []) := by
  obtain ⟨content, hcontent, rfl⟩ := exists_contentTree h
  have hclean := isClean_of_contentTree hcontent
  refine ⟨content, hcontent, rfl, fun name => named_eq_nil_of_quiet hclean.quiet, fun hsafe => ?_⟩
  obtain ⟨tree, htree, hquiet⟩ := hclean.parse_markupOf env.stray hsafe
  exact ⟨tree, htree, fun name => named_eq_nil_of_quiet hquiet⟩

/-- A page with noise, and with what is no noise although it looks like some. -/
def noisyPage : Text :=
  "<p id=script>a<script>b</script><!--<form>--><![if c]></p><form>d</form>".toList

/-- What is extracted of that page. -/
def quietMarkup : Text := "<p id=\"script\">a<!--<form>--><?if c?></p>".toList

theorem extractContent_withoutNoise_noisyPage :
    ∃ post, (extractContent {} noisyPage "https://a.test/".toList false {}).outcome =
        .ok (post, quietMarkup) ∧
      ∃ tree, parse (Environment.stray {}) quietMarkup = .ok tree ∧
        ∀ name, isNoise name = true → Node.named name tree = [] := by
  let url := "https://a.test/".toList
  have hextracted : (extractContent {} noisyPage url false {}).outcome =
      .ok ({ title := url, sourceUrl := some url }, quietMarkup) := by decide +kernel
  obtain ⟨content, hcontent, -, -, hclean⟩ := extractContent_withoutNoise hextracted
  have hsafe : (contentTree {} noisyPage url false {}).outcome.toOption.all fun content =>
      (Node.preorderAll content).all fun node => match node with
        | .text .declaration t => !t.contains '>'
        | _ => true := by decide +kernel
  rw [hcontent] at hsafe
  refine ⟨_, hextracted, hclean fun t ht => ?_⟩
  simpa using List.all_eq_true.mp hsafe _ ht

/-- A page with a section in a section, and a script in that one. -/
def nestedSections : Text := "<![temp a><![if b><script>c()</script>]>]]>".toList

/-- The script of that page is in no tree of it, but what is extracted of the page has it as an
element. -/
theorem extractContent_script_nestedSections :
    isNoise "script".toList = true ∧ ∃ post html tree,
      (extractContent {} nestedSections "https://a.test/".toList false {}).outcome =
          .ok (post, html) ∧
        parse (Environment.stray {}) html = .ok tree ∧ Node.named "script".toList tree =
          [.element "script".toList [] [.text .script "c()".toList]] := by
  let url := "https://a.test/".toList
  have hextracted : (extractContent {} nestedSections url false {}).outcome =
      .ok ({ title := url, sourceUrl := some url },
        "<?temp a><?if b><script>c()</script>?>?&gt;".toList) := by decide +kernel
  have hparsed : parse (Environment.stray {}) "<?temp a><?if b><script>c()</script>?>?&gt;".toList =
      .ok [.text .instruction "temp a".toList, .text .instruction "if b".toList,
        .element "script".toList [] [.text .script "c()".toList],
        .text .plain "?>?>".toList] := rfl
  exact ⟨by decide, _, _, _, hextracted, hparsed, rfl⟩

end PageMarkdown.Page
