/-!
# Text

Text is a list of Unicode characters, so that every operation on it is a recursion on its data. The
operations here are the ones that every other module shares: cutting at a separator, searching for a
piece, and replacing one character.
-/

namespace PageMarkdown

/-- A sequence of Unicode characters. -/
abbrev Text := List Char

namespace Text

/-- The text before the first separator and, when there is one, the text after it. -/
def cut (separator : Char) : Text → Text × Option Text
  | [] => ([], none)
  | c :: rest =>
    if c = separator then ([], some rest)
    else ((c :: (cut separator rest).1), (cut separator rest).2)

/-- The fields between separators: always one more than there are separators. -/
def fields (separator : Char) : Text → List Text
  | [] => [[]]
  | c :: rest =>
    if c = separator then [] :: fields separator rest
    else match fields separator rest with
      | [] => [[c]]
      | first :: others => (c :: first) :: others

/-- The text with every occurrence of one character replaced by a text. -/
def replace (old : Char) (new : Text) (t : Text) : Text :=
  t.flatMap fun c => if c = old then new else [c]

/-- What follows an initial piece, when the text starts with it. -/
def after? : Text → Text → Option Text
  | [], t => some t
  | _ :: _, [] => none
  | p :: piece, c :: t => if p = c then after? piece t else none

/-- The text contains the piece as consecutive characters. -/
def mentions (piece : Text) : Text → Bool
  | [] => piece.isEmpty
  | c :: rest => piece.isPrefixOf (c :: rest) || mentions piece rest

/-- The text in front of the last separator, if any, and the text behind it. -/
def cutLast (separator : Char) (t : Text) : Option Text × Text :=
  match cut separator t.reverse with
  | (last, none) => (none, last.reverse)
  | (last, some front) => (some front.reverse, last.reverse)

/-- An ASCII letter. -/
def isLetter (c : Char) : Bool := c.isAlpha

/-- An ASCII hexadecimal digit. -/
def isHexDigit (c : Char) : Bool :=
  c.isDigit || ('a' ≤ c && c ≤ 'f') || ('A' ≤ c && c ≤ 'F')

/-- The value of an ASCII digit in a base up to sixteen. -/
def digitValue (c : Char) : Nat :=
  if c.isDigit then c.toNat - 0x30
  else if 'a' ≤ c && c ≤ 'f' then c.toNat - 0x57
  else c.toNat - 0x37

/-- The number that a row of ASCII digits writes in a base. -/
def numeralValue (base : Nat) (digits : Text) : Nat :=
  digits.foldl (fun n c => base * n + digitValue c) 0

/-- The decimal numeral of a natural number. -/
def ofNat (n : Nat) : Text := Nat.toDigits 10 n

/-- The decimal numeral of an integer, with a minus sign in front of a negative one. -/
def ofInt : Int → Text
  | .ofNat n => ofNat n
  | .negSucc n => '-' :: ofNat (n + 1)

end Text

end PageMarkdown
