import PageMarkdown.Html.Reference.Names
import PageMarkdown.Numeral.Integer

/-!
# Character references

A character reference stands for text by number or by name. Markup and already parsed text resolve
references by slightly different rules: in markup a number always yields a character and a name must
be complete, while in text numbers of control characters vanish and a name may be recognised at the
start of a longer word. Tree builders do not agree on numbers without a character in markup, so that
these are left open. Both refuse a decimal number with too many digits.
-/

namespace PageMarkdown.Html.Reference

open Text Numeral

/-- The characters that the numbers from 0x80 to 0x9F stand for. -/
def windowsRow : List Nat :=
  [0x20AC, 0x81, 0x201A, 0x0192, 0x201E, 0x2026, 0x2020, 0x2021, 0x02C6, 0x2030, 0x0160, 0x2039,
    0x0152, 0x8D, 0x017D, 0x8F, 0x90, 0x2018, 0x2019, 0x201C, 0x201D, 0x2022, 0x2013, 0x2014,
    0x02DC, 0x2122, 0x0161, 0x203A, 0x0153, 0x9D, 0x017E, 0x0178]

/-- No character has the number: it is 0 or that of half a surrogate pair. -/
def isStray (n : Nat) : Bool := n == 0 || (0xD800 ≤ n && n ≤ 0xDFFF)

/-- The character of a number: the replacement character where no character has it. -/
def character (n : Nat) : Char :=
  if isStray n || 0x10FFFF < n then '\uFFFD'
  else if 0x80 ≤ n && n ≤ 0x9F then Char.ofNat (windowsRow.getD (n - 0x80) n)
  else Char.ofNat n

/-- The character of a number in markup. A tree builder chooses those of stray numbers. -/
def markupCharacter (stray : Nat → Char) (n : Nat) : Char :=
  if isStray n then stray n else character n

/-- A control character other than blank ones, or a code point that never becomes a character. -/
def isVoid (n : Nat) : Bool :=
  (0x01 ≤ n && n ≤ 0x08) || n == 0x0B || (0x0E ≤ n && n ≤ 0x1F) || n == 0x7F ||
    (0xFDD0 ≤ n && n ≤ 0xFDEF) || (0xFFFE ≤ n % 0x10000 && n ≤ 0x10FFFF)

/-- The text of a number in parsed text: nothing for a void one. -/
def characterText (n : Nat) : Text := if isVoid n then [] else [character n]

/-- The text of a name, written without the semicolon. -/
def named? (name : Text) : Option Text :=
  match name with
  | [] => none
  | c :: _ =>
    (names.lookup c).bind fun group =>
      (group.find? fun entry => entry.1.toList = name).map fun entry => entry.2.toList

/-- The text of a name that is recognised without a semicolon. -/
def unterminated? (name : Text) : Option Text :=
  if unterminated.any fun known => known.toList = name then named? name else none

/-- Of the first `length` characters, the longest name that needs no semicolon: its text, and the
number of characters that it takes. -/
def longestName? (t : Text) : Nat → Option (Text × Nat)
  | 0 => none
  | length + 1 =>
    match unterminated? (t.take (length + 1)) with
    | some text => some (text, length + 1)
    | none => longestName? t length

/-- A character that may stand in a named reference. -/
def isNameChar (c : Char) : Bool :=
  c != '\t' && c != '\n' && c != '\x0c' && c != ' ' && c != '<' && c != '&' && c != '#' && c != ';'

/-- The most characters that a name is looked for in. -/
def nameLimit : Nat := 32

/-- The leading semicolon, if any, counts as one more character of the reference. -/
def closed (taken : Nat) (rest : Text) : Nat :=
  match rest with
  | ';' :: _ => taken + 1
  | _ => taken

/-- Resolve the reference after an ampersand: its text, and how many characters it takes. Nothing
when no reference starts here. -/
def resolve? (t : Text) : Except TooLong (Option (Text × Nat)) :=
  match t with
  | '#' :: rest =>
    let digits := rest.takeWhile Char.isDigit
    if digits.isEmpty then
      match rest with
      | x :: rest' =>
        let hex := rest'.takeWhile isHexDigit
        if (x = 'x' || x = 'X') && !hex.isEmpty then
          .ok (some (characterText (numeralValue 16 hex),
            closed (2 + hex.length) (rest'.drop hex.length)))
        else .ok none
      | [] => .ok none
    else
      (decimal digits).map fun n =>
        some (characterText n, closed (1 + digits.length) (rest.drop digits.length))
  | _ =>
    let name := (t.take nameLimit).takeWhile isNameChar
    let terminated := (t.drop name.length).head? = some ';'
    match if terminated then named? name else none with
    | some text => .ok (some (text, name.length + 1))
    | none => .ok (longestName? name name.length)

/-- Resolve the references of a text whose first `skip` characters have been consumed. -/
def resolveFrom : Nat → Text → Except TooLong Text
  | _, [] => .ok []
  | skip + 1, _ :: rest => resolveFrom skip rest
  | 0, c :: rest =>
    if c = '&' then
      match resolve? rest with
      | .error e => .error e
      | .ok none => (resolveFrom 0 rest).map (c :: ·)
      | .ok (some (text, taken)) => (resolveFrom taken rest).map (text ++ ·)
    else (resolveFrom 0 rest).map (c :: ·)

/-- The text with its references replaced by what they stand for. -/
def resolveAll (t : Text) : Except TooLong Text := resolveFrom 0 t

end PageMarkdown.Html.Reference
