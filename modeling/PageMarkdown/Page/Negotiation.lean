import PageMarkdown.Text.Blank
import PageMarkdown.Text.Lowercase

/-!
# Content negotiation

A client that understands Markdown says so in its `Accept` header, and a server that sends Markdown
says so in the content type. The answer depends on the request and must not be kept.
-/

namespace PageMarkdown.Page

open Text

/-- The media type of Markdown. -/
def mediaType : Text := "text/markdown".toList

/-- An `Accept` header mentions Markdown. -/
def wantsMarkdown (accept : Text) : Bool := mentions mediaType (lower accept)

/-- The headers of an answer in Markdown with the given character encoding. -/
def markdownHeaders (charset : Text) : List (Text × Text) :=
  [("Cache-Control".toList, "no-cache, must-revalidate, max-age=0".toList),
    ("Vary".toList, "Accept".toList),
    ("Content-Type".toList, mediaType ++ "; charset=".toList ++ charset)]

/-- A content type is Markdown, whatever its parameters. -/
def isMarkdown (contentType : Text) : Bool := lower (trim (cut ';' contentType).1) = mediaType

end PageMarkdown.Page
