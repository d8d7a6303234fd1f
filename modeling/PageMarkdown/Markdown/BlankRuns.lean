import PageMarkdown.Text

/-!
# Runs of blank lines

Between two blocks of Markdown one blank line is enough. Where three line feeds follow one another
with nothing but spaces and tabs between them, the whole run shrinks to two line feeds. A related
rule shrinks line feeds that stand directly side by side to one.
-/

namespace PageMarkdown.Markdown

/-- A character that may stand in a run of blank lines. -/
def isGap (c : Char) : Bool := c = ' ' || c = '\t' || c = '\n'

/-- The number of line feeds before the next character that is no gap. -/
def feedsAhead (t : Text) : Nat := (t.takeWhile isGap).count '\n'

/-- Collapse blank lines; the flag says that the text begins in a run that is written already and
goes on to another line feed. -/
def collapseFrom : Bool → Text → Text
  | _, [] => []
  | true, c :: t => collapseFrom (c != '\n' || feedsAhead t != 0) t
  | false, c :: t =>
    if c = '\n' && 2 ≤ feedsAhead t then '\n' :: '\n' :: collapseFrom true t
    else c :: collapseFrom false t

/-- The text with each run of blank lines shrunk to one. -/
def collapseBlankLines (t : Text) : Text := collapseFrom false t

/-- The text without empty lines: of line feeds side by side one stays. -/
def dropEmptyLines : Text → Text
  | [] => []
  | c :: t => if c = '\n' && t.head? = some '\n' then dropEmptyLines t else c :: dropEmptyLines t

end PageMarkdown.Markdown
