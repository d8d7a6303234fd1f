import PageMarkdown.Html.Markup
import PageMarkdown.Markdown.Document
import PageMarkdown.Url.Resolve

/-!
# The article of a page

A page surrounds its article with much else. What an extractor found is used when it is long enough
and has not lost the images of the page; otherwise the main part, the article and the body of the
page are tried in this order. Noise is removed from what is chosen, its links are resolved against
the URL of the page, and the title, the description and the featured image are read from the page
itself.
-/

namespace PageMarkdown.Page

open Text Html Markdown

/-- A name in a list of names. -/
private def listed (names : List String) (name : Text) : Bool := names.any fun n => n.toList = name

/-- Elements that never belong to an article. -/
def isNoise (name : Text) : Bool := listed ["script", "style", "noscript", "form"] name

/-- Elements that surround an article. -/
def isChrome (name : Text) : Bool := listed ["header", "footer", "nav", "aside"] name

mutual

/-- A node without the elements of unwanted names; such an element itself leaves nothing. -/
def pruneNode (unwanted : Text → Bool) : Node → List Node
  | .text kind content => [.text kind content]
  | .element name attributes kids =>
    if unwanted name then [] else [.element name attributes (prune unwanted kids)]

/-- Nodes without the elements of unwanted names. -/
def prune (unwanted : Text → Bool) : List Node → List Node
  | [] => []
  | node :: others => pruneNode unwanted node ++ prune unwanted others

end

/-- Nodes without noise and, if asked for, without what surrounds an article. -/
def cleanContent (stripChrome : Bool) (nodes : List Node) : List Node :=
  prune (fun name => isNoise name || (stripChrome && isChrome name)) nodes

/-- The number of characters that a document shows, blanks at the ends of its strings not counted.
-/
def textLength (nodes : List Node) : Nat :=
  (Node.innerStrings nodes).foldl (fun n t => n + (trim t).length) 0

/-- Parse markup that belongs to a page. -/
def parsePage (env : Environment) (markup : Text) : Report (List Node) :=
  Report.ofExcept id (env.build markup)

/-- The markup of the first element of each of these names, where there is one. -/
def scopes (nodes : List Node) : List Text :=
  [Node.first? "main".toList nodes, Node.first? "article".toList nodes,
    Node.first? "body".toList nodes].filterMap fun found => found.map fun node => markupOf [node]

/-- Resolve one kind of reference in the attributes of an element. -/
def resolveIn (base : Text) (key : String) (skipped : Text) (attributes : Attributes) :
    Except Url.Defect Attributes :=
  let reference := trim (attributes.text key)
  if reference.isEmpty || skipped.isPrefixOf reference then .ok attributes
  else (Url.resolve base reference).map fun resolved =>
    attributes.set key.toList (.single resolved)

/-- The first defect of resolving one kind of reference in elements of a name, in document order. -/
def firstDefect (base : Text) (name key : String) (skipped : Text) (nodes : List Node) :
    Except Url.Defect Unit :=
  (Node.named name.toList nodes).forM fun node =>
    match node with
    | .element _ attributes _ => (resolveIn base key skipped attributes).map fun _ => ()
    | .text _ _ => .ok ()

/-- The attributes of an element with its reference resolved, where that is possible. -/
def resolvedAttributes (base name : Text) (attributes : Attributes) : Attributes :=
  let result :=
    if name = "img".toList then resolveIn base "src" "data:".toList attributes
    else if name = "a".toList then resolveIn base "href" ['#'] attributes
    else .ok attributes
  match result with
  | .ok found => found
  | .error _ => attributes

mutual

/-- A node with the references in it resolved. -/
def resolveNode (base : Text) : Node → Node
  | .text kind content => .text kind content
  | .element name attributes kids =>
    .element name (resolvedAttributes base name attributes) (resolveNodes base kids)

/-- Nodes with the references in them resolved. -/
def resolveNodes (base : Text) : List Node → List Node
  | [] => []
  | node :: others => resolveNode base node :: resolveNodes base others

end

/-- Resolve the sources of images and the targets of links against the URL of the page. Embedded
images and targets within the page stay as they are. -/
def absolutizeLinks (base : Text) (nodes : List Node) : Except Url.Defect (List Node) := do
  firstDefect base "img" "src" "data:".toList nodes
  firstDefect base "a" "href" ['#'] nodes
  return resolveNodes base nodes

/-- The content of the first `meta` element that has all of the given attribute values. -/
def metaContent (wanted : List (Text × Text)) (nodes : List Node) : Option Text :=
  let fits (node : Node) : Bool :=
    match node with
    | .element name attributes _ =>
      name = "meta".toList && wanted.all fun entry =>
        match attributes.lookup entry.1 with
        | some (.single value) => value = entry.2
        | some (.words ws) => ws.contains entry.2 || [' '].intercalate ws = entry.2
        | none => false
    | .text _ _ => false
  match (Node.preorderAll nodes).find? fits with
  | some (.element _ attributes _) =>
    let content := attributes.text "content"
    if content.isEmpty then none else some (trim content)
  | _ => none

/-- The least number of characters that an article is expected to have. -/
def enoughText : Nat := 200

/-- Some image is in the document. -/
def hasImage (nodes : List Node) : Bool := (Node.first? "img".toList nodes).isSome

/-- The first scope that has enough text, or an image where the page has one. -/
def widerScope (env : Environment) (pageHasImage : Bool) :
    List Text → Report (Option (List Node))
  | [] => return none
  | scope :: others => do
    let candidate := cleanContent true (← parsePage env scope)
    if enoughText ≤ textLength candidate || (pageHasImage && hasImage candidate) then do
      Report.tell .widened
      return some candidate
    else widerScope env pageHasImage others

/-- The markup of the article that an extractor found: nothing when it says that it found none. -/
def summaryMarkup : Except Failure Text → Report Text
  | .ok summary => return summary
  | .error (.announced reason) => do
    Report.tell (.noArticle reason)
    return []
  | .error (.other message) => .fault (.foreign message)

/-- The article of a page. The summary is what an extractor found, if it found anything. -/
def selectArticle (env : Environment) (summary : Except Failure Text) (page : List Node) :
    Report (List Node) := do
  let found := cleanContent false (← parsePage env (← summaryMarkup summary))
  let pageHasImage := hasImage page
  if enoughText ≤ textLength found && (hasImage found || !pageHasImage) then return found
  else
    match ← widerScope env pageHasImage (scopes page) with
    | some scope => return scope
    | none => return found

/-- What an extractor says about a page. -/
structure Extract where
  /-- The markup of the article, or why there is none. -/
  summary : Except Failure Text := .error (.announced [])
  /-- The title of the page. An extractor that fails here ends the run with its message. -/
  title : Except Text Text := .ok []

/-- The title that a page gives itself. -/
def ownTitle (page : List Node) : Text :=
  match (Node.first? "title".toList page).bind Node.onlyString? with
  | some t => trim t
  | none => []

/-- The image that a page names for itself. -/
def ownImage (url : Text) (page : List Node) : Except Url.Defect (Option ImageRecord) :=
  match metaContent [("property".toList, "og:image".toList)] page with
  | none | some [] => .ok none
  | some image =>
    (Url.resolve url image).map fun resolved =>
      some ⟨resolved,
        (metaContent [("property".toList, "og:image:alt".toList)] page).getD [], []⟩

/-- All that a page shows: its body, or the page itself when it has none, without noise. -/
def wholePage (env : Environment) (page : List Node) : Report (List Node) :=
  let scope := match Node.first? "body".toList page with
    | some body => [body]
    | none => page
  (cleanContent false ·) <$> parsePage env (markupOf scope)

/-- What is chosen of a page, with the title that an extractor gives it: its article, if one is
wanted and there is markup, or all of it. -/
def chosenPart (env : Environment) (markup : Text) (extractArticle : Bool) (extract : Extract)
    (page : List Node) : Report (List Node × Text) :=
  if extractArticle && !isAllBlank markup then do
    let article ← selectArticle env extract.summary page
    let title ← Report.ofExcept .foreign extract.title
    return (article, title)
  else (·, []) <$> wholePage env page

/-- The metadata of a page and the markup of its content. -/
def extractContent (env : Environment) (markup url : Text) (extractArticle : Bool)
    (extract : Extract) : Report (Metadata × Text) := do
  let page ← parsePage env markup
  let (chosen, extractTitle) ← chosenPart env markup extractArticle extract page
  let content ← Report.ofExcept .url (absolutizeLinks url chosen)
  let title := firstFilled (firstFilled extractTitle (ownTitle page)) url
  let excerpt := (metaContent [("name".toList, "description".toList)] page).getD []
  let image ← Report.ofExcept .url (ownImage url page)
  return ({ title := title, excerpt := excerpt, featuredImage := image, sourceUrl := some url },
    markupOf content)

end PageMarkdown.Page
