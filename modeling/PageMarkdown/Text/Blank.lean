import PageMarkdown.Text

/-!
# Blank characters

Blanks are the characters that Unicode calls white space together with the four information
separators. Text is trimmed of them at its ends, and runs of them inside it shrink to one space,
which leaves the words of the text in order with single spaces between them.
-/

namespace PageMarkdown.Text

/-- A blank: a control that moves the cursor, a space of any width, or a separator. -/
def isBlank (c : Char) : Bool :=
  let n := c.toNat
  (0x09 ≤ n && n ≤ 0x0D) || (0x1C ≤ n && n ≤ 0x20) || n == 0x85 || n == 0xA0 || n == 0x1680 ||
    (0x2000 ≤ n && n ≤ 0x200A) || n == 0x2028 || n == 0x2029 || n == 0x202F || n == 0x205F ||
    n == 0x3000

/-- The text without its leading blanks. -/
def trimLeft (t : Text) : Text := t.dropWhile isBlank

/-- The text without its trailing blanks. -/
def trimRight : Text → Text
  | [] => []
  | c :: rest =>
    match trimRight rest with
    | [] => if isBlank c then [] else [c]
    | kept => c :: kept

/-- The text without blanks at either end. -/
def trim (t : Text) : Text := trimRight (trimLeft t)

/-- Shrink each run of blanks to one space; the flag says that the run has been written already. -/
def squeezeFrom (written : Bool) : Text → Text
  | [] => []
  | c :: rest =>
    if isBlank c then
      if written then squeezeFrom true rest else ' ' :: squeezeFrom true rest
    else c :: squeezeFrom false rest

/-- The text with each run of blanks shrunk to one space. -/
def squeeze (t : Text) : Text := squeezeFrom false t

/-- The text on one line: trimmed, with one space between words. -/
def flatten (t : Text) : Text := squeeze (trim t)

/-- Every character is a blank. -/
def isAllBlank (t : Text) : Bool := t.all isBlank

/-- The maximal runs without blanks, in order. -/
def words : Text → List Text
  | [] => []
  | c :: rest =>
    if isBlank c then words rest
    else match rest, words rest with
      | d :: _, first :: others =>
        if isBlank d then [c] :: first :: others else (c :: first) :: others
      | _, others => [c] :: others

end PageMarkdown.Text
