import PageMarkdown.Html.Node
import PageMarkdown.Url.Safe

/-!
# Images

An image is written with its alternative text, which falls back to the title and then to a generic
word, its URL made safe, and its title in quotes if there is one. A registry gathers the images of a
document by URL in the order in which they are first seen; later mentions only fill in what is still
missing.
-/

namespace PageMarkdown.Markdown

open Text Html

/-- The first text that is not empty, or else the last one. -/
def firstFilled (t fallback : Text) : Text := if t.isEmpty then fallback else t

/-- An image in Markdown. -/
def imageMarkdown (url alt title : Text) : Text :=
  let title := flatten title
  let alt := firstFilled (flatten alt) (firstFilled title "image".toList)
  let quotedTitle :=
    if title.isEmpty then [] else ' ' :: '"' :: replace '"' ['\\', '"'] title ++ ['"']
  '!' :: '[' :: alt ++ ']' :: '(' :: Url.sanitize url ++ quotedTitle ++ [')']

/-- An image that a document refers to. -/
structure ImageRecord where
  /-- Where the image is. -/
  url : Text
  /-- Its alternative text. -/
  alt : Text
  /-- Its title. -/
  title : Text
  deriving DecidableEq, Repr

/-- The record with what is missing in it filled in. -/
def ImageRecord.fill (alt title : Text) (r : ImageRecord) : ImageRecord :=
  { r with alt := firstFilled r.alt (flatten alt), title := firstFilled r.title (flatten title) }

/-- Images in the order in which their URLs were first seen, at most one for each URL. -/
abbrev Registry := List ImageRecord

namespace Registry

/-- The record of a URL. -/
def get? (url : Text) (images : Registry) : Option ImageRecord :=
  images.find? fun r => r.url = trim url

/-- Fill in the record of a trimmed URL, or add one. -/
def upsert (url alt title : Text) : Registry → Registry
  | [] => [ImageRecord.fill alt title ⟨url, [], []⟩]
  | r :: others =>
    if r.url = url then r.fill alt title :: others else r :: upsert url alt title others

/-- Register an image. A blank URL registers nothing. -/
def register (url alt title : Text) (images : Registry) : Registry :=
  if (trim url).isEmpty then images else upsert (trim url) alt title images

/-- The inventory as lines of a list. -/
def renderLines (images : Registry) : List Text :=
  images.map fun r => '-' :: ' ' :: imageMarkdown r.url r.alt r.title

end Registry

/-- The images with a source in a document, in order: URL, alternative text and title. -/
def imagesIn (nodes : List Node) : List ImageRecord :=
  (Node.named "img".toList nodes).filterMap fun
    | .element _ attributes _ =>
      let src := trim (attributes.text "src")
      if src.isEmpty then none
      else some ⟨src, attributes.text "alt", attributes.text "title"⟩
    | .text _ _ => none

/-- Register every image of a document that has a source. -/
def Registry.collect (nodes : List Node) (images : Registry) : Registry :=
  (imagesIn nodes).foldl (fun found r => found.register r.url r.alt r.title) images

end PageMarkdown.Markdown
