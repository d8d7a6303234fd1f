import PageMarkdown.Text

/-!
# Lines

A line ends at a line feed, a carriage return, the pair of both, or one of the rarer breaks:
vertical tab, form feed, the file, group and record separators, next line, and the two Unicode
separators. The lines of a text hold everything but its breaks, and a break at the very end opens no
further line.
-/

namespace PageMarkdown.Text

/-- A character that ends a line. -/
def isBreak (c : Char) : Bool :=
  let n := c.toNat
  (0x0A ≤ n && n ≤ 0x0D) || (0x1C ≤ n && n ≤ 0x1E) || n == 0x85 || n == 0x2028 || n == 0x2029

/-- Put a character in front of the first line, opening it when there is none. -/
private def onFirstLine (c : Char) : List Text → List Text
  | [] => [[c]]
  | line :: others => (c :: line) :: others

/-- The lines of a text without their breaks. A carriage return and the line feed after it are one
break. -/
def lines : Text → List Text
  | [] => []
  | '\r' :: '\n' :: rest => [] :: lines rest
  | c :: rest => if isBreak c then [] :: lines rest else onFirstLine c (lines rest)

/-- The text with carriage returns, alone or before a line feed, turned into line feeds. -/
def unifyBreaks : Text → Text
  | [] => []
  | '\r' :: '\n' :: rest => '\n' :: unifyBreaks rest
  | c :: rest => (if c = '\r' then '\n' else c) :: unifyBreaks rest

/-- The lines joined by line feeds. -/
def unlines (ls : List Text) : Text := ['\n'].intercalate ls

end PageMarkdown.Text
