import PageMarkdown.Page.Fetch

/-!
# Tools

Two tools for an assistant: one converts markup that it is given, the other fetches a page and
returns the document.
-/

namespace PageMarkdown.Tools

open Markdown Page Files

/-- Convert markup, as a full document when a title is given. -/
def convertHtml (env : Environment) (title markup : Text) : Report Text := do
  let settings ← ConvertSettings.fromEnvironment env
  if title.isEmpty then ofHtml env (some settings) markup
  else compose env (some settings) { title := title } markup

/-- Fetch a page and return its document. The file that is written on the way does not last. -/
def fetchMarkdown (env : Environment) (network : Network) (url : Text) : Report Text := do
  let settings ← FetchSettings.clamped env {}
  let scratch : Store := ⟨[], []⟩
  match ← (processUrl env network settings ⟨['/'], []⟩ url scratch).2 with
  | some result => return result.markdown
  | none => .fault (.notFetched url)

end PageMarkdown.Tools
