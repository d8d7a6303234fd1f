import PageMarkdown.Proofs.AbsoluteLinks
import PageMarkdown.Proofs.Description
import PageMarkdown.Proofs.Refusal

/-!
# Pages that cannot be rendered

A page that came as Markdown is always rendered. Of any other page it is what the
page holds that decides. Its markup may not be read, or the markup of one of its
parts when that is read again; the extractor may fail; a link, an image or the image
that the page names for itself may refer to a URL that is not allowed; and a numeral
may be refused in its description or in its content. Nothing else keeps a page from
being rendered.
-/

namespace PageMarkdown.Page

open Text Html Markdown Report

section

variable {env : Environment} {markup : Text}

variable {settings : FetchSettings} {extract : Extract} {page : FetchedPage} {tree : List Node}
  {post : Metadata} {url content : Text}

end

end PageMarkdown.Page
