import PageMarkdown.Files.Store
import PageMarkdown.Page.Article
import PageMarkdown.Page.Negotiation
import PageMarkdown.Text.Slug

/-!
# Fetching pages

A page is requested with a preference for Markdown. What comes back as Markdown is kept as it is,
and any other page is turned into a document. The document is written to a directory named for the
host and the title of the page. A page that cannot be fetched, or whose file cannot be written, is
passed over.
-/

namespace PageMarkdown.Page

open Text Markdown Files

/-- What a request asks for. -/
structure Request where
  /-- The URL that is asked for. -/
  url : Text
  /-- The media types that are understood. -/
  accept : Text
  /-- The name that the request gives. -/
  userAgent : Text
  /-- How long the answer may take. -/
  timeout : Timeout
  deriving DecidableEq, Repr

/-- The answer to a request. -/
structure Response where
  /-- The text of the answer. -/
  text : Text
  /-- The number of octets of the answer. -/
  size : Nat
  /-- The URL that the answer came from in the end, if it is known. -/
  url : Option Text
  /-- The content type, if one is given. -/
  contentType : Option Text
  /-- Why the answer is a failure, if it is one. -/
  failure : Option Text := none
  deriving DecidableEq, Repr

/-- The world that pages come from. -/
structure Network where
  /-- The answer to a request, or why none comes. -/
  respond : Request → Except Failure Response
  /-- What the extractor says about a page with this markup. -/
  extract : Text → Extract

/-- A page as it was fetched. -/
structure FetchedPage where
  /-- The text of the page. -/
  body : Text
  /-- Where the page came from in the end. -/
  finalUrl : Text
  /-- The page came as Markdown. -/
  isMarkdown : Bool := false
  deriving DecidableEq, Repr

/-- The media types that a request asks for. -/
def acceptHeader : Text := "text/markdown, text/html;q=0.9, */*;q=0.1".toList

/-- The request for a URL. -/
def requestFor (settings : FetchSettings) (url : Text) : Request :=
  ⟨url, acceptHeader, settings.userAgent, settings.timeout⟩

/-- The page of an answer. -/
def pageOf (url : Text) (response : Response) : FetchedPage :=
  ⟨response.text, firstFilled (response.url.getD []) url,
    (response.contentType.map Page.isMarkdown).getD false⟩

/-- The answer to a request, unless it is a failure. -/
def Network.answer (network : Network) (request : Request) : Except Failure Response :=
  match network.respond request with
  | .error failure => .error failure
  | .ok response =>
    match response.failure with
    | some reason => .error (.announced reason)
    | none => .ok response

/-- Fetch a page. -/
def fetchPage (network : Network) (settings : FetchSettings) (url : Text) :
    Report (Option FetchedPage) := do
  Report.tell (.fetching url)
  match network.answer (requestFor settings url) with
  | .ok response =>
    if settings.maxOctets < response.size then do
      Report.tell (.tooLarge url settings.maxOctets)
      return none
    else return some (pageOf url response)
  | .error (.announced reason) => do
    Report.tell (.fetchFailed url reason)
    return none
  | .error (.other message) => .fault (.foreign message)

/-- The metadata and the document of a page. -/
def renderPage (env : Environment) (extract : Text → Extract) (settings : FetchSettings)
    (page : FetchedPage) : Report (Metadata × Text) :=
  if page.isMarkdown then do
    Report.tell (.servedMarkdown page.finalUrl)
    return ({ title := page.finalUrl, sourceUrl := some page.finalUrl }, trim page.body ++ ['\n'])
  else do
    let (post, content) ←
      extractContent env page.body page.finalUrl settings.extractArticle (extract page.body)
    let convert ← ConvertSettings.make env defaultParser settings.maxDepth
    let document ← compose env (some convert) post content
    return (post, document)

/-- The directory below `root` for a page with this metadata: a name for its host, and in it one for
its title. -/
def outputPath (root : Path) (post : Metadata) : Except Url.Defect Path :=
  (Url.splitWithParameters [] (post.sourceUrl.getD [])).map fun found =>
    let parts := found.1
    let site := slug "site".toList parts.authority
    let title := slug "page".toList (firstFilled post.title parts.path)
    (root.child site).child (title.take 80)

/-- Make the directory for a page. -/
def buildOutputDirectory (root : Path) (post : Metadata) (store : Store) : Store × Report Path :=
  match outputPath root post with
  | .error e => (store, .fault (.url e))
  | .ok path =>
    let (store, made) := store.ensure path
    (store, Report.ofExcept id (made.map fun () => path))

/-- A page that was fetched and written. -/
structure FetchResult where
  /-- The URL that was asked for. -/
  url : Text
  /-- The file that was written. -/
  path : Path
  /-- What was written. -/
  markdown : Text
  deriving DecidableEq, Repr

/-- Save a document in a file; a file that cannot be opened is told. -/
def saveDocument (env : Environment) (path : Path) (document : Text) (store : Store) :
    Store × Report Bool :=
  let (store, saved) := store.save env.isHalf path document
  match saved with
  | .ok () => (store, (Report.tell (.saved path.toText)).andThen fun () => .ok true)
  | .error (.file problem place) =>
    let reason := (Fault.file problem place).message
    (store, (Report.tell (.writeFailed path.toText reason)).andThen fun () => .ok false)
  | .error e => (store, .fault e)

/-- Write the document of a page below `root`. -/
def writePage (env : Environment) (root : Path) (url : Text) (rendered : Metadata × Text)
    (store : Store) : Store × Report (Option FetchResult) :=
  Report.thenOn (buildOutputDirectory root rendered.1 store) fun directory store =>
    let path := directory.child "index.md".toList
    Report.thenOn (saveDocument env path rendered.2 store) fun saved store =>
      (store, .ok (if saved then some ⟨url, path, rendered.2⟩ else none))

/-- Fetch a page and write its document below `root`. -/
def processUrl (env : Environment) (network : Network) (settings : FetchSettings) (root : Path)
    (url : Text) (store : Store) : Store × Report (Option FetchResult) :=
  Report.thenOn (store, fetchPage network settings url) fun page store =>
    match page with
    | none => (store, .ok none)
    | some page =>
      Report.thenOn (store, renderPage env network.extract settings page) fun rendered store =>
        writePage env root url rendered store

/-- Fetch pages one after another and write their documents below `root`. -/
def runFetcher (env : Environment) (network : Network) (settings : FetchSettings) (root : Path) :
    List Text → Store → Store × Report (List FetchResult)
  | [], store => (store, .ok [])
  | url :: others, store =>
    Report.thenOn (processUrl env network settings root url store) fun found store =>
      Report.thenOn (runFetcher env network settings root others store) fun rest store =>
        (store, .ok (found.toList ++ rest))

end PageMarkdown.Page
