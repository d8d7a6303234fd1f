import PageMarkdown.Text.Blank
import PageMarkdown.Text.DecimalDigit

/-!
# Reading whole numbers

An integer is written as an optional sign and decimal digits of any script, with blanks around it
and single underscores between digits. A numeral of more than 4300 digits is refused, whatever its
value.
-/

namespace PageMarkdown.Numeral

open Text

/-- The most digits that a decimal numeral may have. -/
def digitLimit : Nat := 4300

/-- A decimal numeral with more digits than the limit. -/
structure TooLong where
  /-- The number of its digits. -/
  digits : Nat
  deriving DecidableEq, Repr

/-- The value of an ASCII decimal numeral, unless it is too long. -/
def decimal (digits : Text) : Except TooLong Nat :=
  if digitLimit < digits.length then .error ⟨digits.length⟩ else .ok (numeralValue 10 digits)

/-- A blank that may surround a number: any but the four information separators. -/
def isPadding (c : Char) : Bool := isBlank c && !(0x1C ≤ c.toNat && c.toNat ≤ 0x1F)

/-- The text without padding at its ends. -/
def unpad (t : Text) : Text :=
  ((t.dropWhile isPadding).reverse.dropWhile isPadding).reverse

/-- The sign in front of a number, minus being `true`, and what follows it. -/
def takeSign : Text → Bool × Text
  | '-' :: rest => (true, rest)
  | '+' :: rest => (false, rest)
  | t => (false, t)

/-- The values of digits that may be separated by single underscores. The flag says that the last
character was a digit. -/
def digitValues? (afterDigit : Bool) : Text → Option (List Nat)
  | [] => if afterDigit then some [] else none
  | c :: rest =>
    if c = '_' then if afterDigit then digitValues? false rest else none
    else match DecimalDigit.value? c with
      | some d => (digitValues? true rest).map (d :: ·)
      | none => none

/-- The integer that a text writes. -/
def integer? (t : Text) : Option Int :=
  let (negative, body) := takeSign (unpad t)
  match digitValues? false body with
  | none => none
  | some ds =>
    if digitLimit < ds.length then none
    else
      let n : Nat := ds.foldl (fun n d => 10 * n + d) 0
      some (if negative then -n else n)

end PageMarkdown.Numeral
