import PageMarkdown.Markdown.Walk

/-!
# The ways to show an element

An element that is entered is shown in one of four ways, whatever its role: by a fixed text, by its
children inside a frame, by its items, or by the rows of a table.
-/

namespace PageMarkdown.Markdown

open Text Html

/-- The way in which an element is shown. -/
inductive Shown where
  /-- By a text that does not come from a walk. -/
  | fixed (t : Text)
  /-- By its children, walked one after another, inside a frame. -/
  | content (frame : Text → Text)
  /-- By the items among its children. -/
  | items (ordered : Bool)
  /-- By the rows below it. -/
  | rows

/-- How an element is shown. -/
def shown (name : Text) (attributes : Attributes) (kids : List Node) : Shown :=
  match Role.ofName name with
  | .heading level => .content fun t => headingMarkdown level (trim t)
  | .paragraph => .content fun t => block (trim t)
  | .lineBreak => .fixed [' ', ' ', '\n']
  | .strong => .content fun t => enclosed ['*', '*'] (trim t)
  | .emphasis => .content fun t => enclosed ['*'] (trim t)
  | .code => .fixed (codeMarkdown (Node.innerText kids))
  | .preformatted => .fixed (preformattedMarkdown (Node.innerText kids))
  | .link => .content fun t => linkMarkdown (trim (attributes.text "href")) (trim t)
  | .image => .fixed (imageElement attributes)
  | .list ordered => .items ordered
  | .quote => .content fun t => quoteMarkdown (trim t)
  | .rule => .fixed (block ['-', '-', '-'])
  | .table => .rows
  | .hidden => .fixed []
  | .transparent => .content id

end PageMarkdown.Markdown
