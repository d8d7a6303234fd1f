import PageMarkdown.Markdown.Conversion

/-!
# Documents

A document is a title line, a block of metadata between two rules, and a body. The metadata are the
summary, the categories, the terms of further taxonomies, the tags and the inventory of images; the
parts that have nothing to show are left out, except for the categories.
-/

namespace PageMarkdown.Markdown

open Text Html

/-- A term of a taxonomy, with the page that lists it. -/
structure Term where
  /-- The name of the term. -/
  name : Text
  /-- Where the term is listed. -/
  url : Text
  deriving DecidableEq, Repr

/-- The terms that a document has in one taxonomy. -/
structure Taxonomy where
  /-- The key of the taxonomy. -/
  key : Text
  /-- What the taxonomy is called. -/
  label : Text
  /-- Its terms. -/
  terms : List Term := []
  deriving DecidableEq, Repr

/-- What is known of a document beside its content. -/
structure Metadata where
  /-- The title. -/
  title : Text
  /-- The summary, as markup. -/
  excerpt : Text := []
  /-- The categories. -/
  categories : List Term := []
  /-- The tags. -/
  tags : List Term := []
  /-- Terms of other taxonomies. -/
  taxonomies : List Taxonomy := []
  /-- The image that stands for the document. -/
  featuredImage : Option ImageRecord := none
  /-- Where the document comes from. -/
  sourceUrl : Option Text := none
  deriving DecidableEq, Repr

/-- The lines of a list of links to terms. A term without a safe URL is skipped. -/
def termLines : List Term → Report (List Text)
  | [] => return []
  | term :: others =>
    let url := Url.sanitize term.url
    if url.isEmpty then do
      Report.tell (.termSkipped term.name)
      termLines others
    else do
      let rest ← termLines others
      return ('-' :: ' ' :: '[' :: flatten term.name ++ ']' :: '(' :: url ++ [')']) :: rest

/-- Text between double asterisks. -/
def bold (t : Text) : Text := ['*', '*'] ++ t ++ ['*', '*']

/-- Pieces with an empty line between them. -/
def paragraphs (pieces : List Text) : Text := ['\n', '\n'].intercalate pieces

/-- A section: a bold heading and its content. -/
def sectionText (heading : Text) (content : Text) : Text := paragraphs [bold heading, content]

/-- The taxonomies that have sections of their own. -/
def builtinKeys : List Text := ["category".toList, "post_tag".toList]

/-- The pieces of the section on further taxonomies. -/
def taxonomyPieces : List Taxonomy → Report (List Text)
  | [] => return []
  | taxonomy :: others =>
    if builtinKeys.contains taxonomy.key then taxonomyPieces others
    else do
      let ls ← termLines taxonomy.terms
      let rest ← taxonomyPieces others
      if ls.isEmpty then return rest
      else
        let label := firstFilled (flatten taxonomy.label) taxonomy.key
        return sectionText (label ++ " (\x60".toList ++ taxonomy.key ++ "\x60)".toList)
          (unlines ls) :: rest

/-- The section on further taxonomies; empty when they have nothing to show. -/
def taxonomySection (taxonomies : List Taxonomy) : Report Text := do
  let pieces ← taxonomyPieces taxonomies
  if pieces.isEmpty then return []
  else return paragraphs (bold "Custom Taxonomies".toList :: pieces)

/-- The images of a document: the featured one first, then those of the content. -/
def imageRegistry (env : Environment) (settings : Option ConvertSettings) (post : Metadata)
    (content : Text) : Report Registry := do
  let featured : Registry := match post.featuredImage with
    | some image => Registry.register image.url image.alt image.title []
    | none => []
  if isAllBlank content then return featured
  else
    let settings ← ConvertSettings.orDefault env settings
    match ← parseWith env settings content with
    | none => return featured
    | some nodes =>
      let images := featured.collect nodes
      Report.tell (.imagesCollected (imagesIn nodes).length images.length)
      return images

/-- A section, if it has lines. -/
def linesSection (heading : String) (ls : List Text) : List Text :=
  if ls.isEmpty then [] else [sectionText heading.toList (unlines ls)]

/-- The sections of the metadata block. -/
def metadataSections (env : Environment) (settings : Option ConvertSettings) (post : Metadata)
    (content : Text) : Report (List Text) := do
  let excerpt ← if post.excerpt.isEmpty then pure [] else ofHtml env settings post.excerpt
  let categories ← termLines post.categories
  let custom ← taxonomySection post.taxonomies
  let tags ← termLines post.tags
  let images ← imageRegistry env settings post content
  let summary := trim excerpt
  return (if summary.isEmpty then [] else [sectionText "Summary".toList summary]) ++
    [sectionText "Category".toList
      (if categories.isEmpty then "_(none)_".toList else unlines categories)] ++
    (if custom.isEmpty then [] else [custom]) ++
    linesSection "Tag" tags ++ linesSection "Images" images.renderLines

/-- The line that separates the metadata block. -/
def divider : Text := ['-', '-', '-']

/-- The document of a post with the given content. -/
def compose (env : Environment) (settings : Option ConvertSettings) (post : Metadata)
    (content : Text) : Report Text := do
  let sections ← metadataSections env settings post content
  let body ← ofHtml env settings content
  return paragraphs ["title: ".toList ++ flatten post.title, divider, paragraphs sections, divider,
    firstFilled (trim body) "_(no content)_".toList] ++ ['\n']

end PageMarkdown.Markdown
