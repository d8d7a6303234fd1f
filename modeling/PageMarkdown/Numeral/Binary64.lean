import PageMarkdown.Numeral.Integer

/-!
# Binary floating-point numbers

A number of the 64-bit binary format is a 53-bit significand times a power of two. Reading a decimal
rounds to the nearest such number, a tie going to the even significand. Writing picks the fewest
decimal digits that read back, and of these the nearest to the number. Both are computed in exact
integer arithmetic.
-/

namespace PageMarkdown.Numeral

open Text

/-- A value of the 64-bit binary format. -/
inductive Binary64 where
  /-- Plus or minus `significand * 2 ^ exponent`; zero has significand 0. -/
  | finite (negative : Bool) (significand : Nat) (exponent : Int)
  /-- An infinity. -/
  | infinite (negative : Bool)
  /-- Not a number. -/
  | undefined
  deriving DecidableEq, Repr

namespace Binary64

/-- `n / d` to the nearest integer, a tie to the even one. -/
def roundDiv (n d : Nat) : Nat :=
  let q := n / d
  let r := n % d
  if 2 * r < d then q
  else if d < 2 * r then q + 1
  else if q % 2 = 0 then q else q + 1

/-- The power of a base with an exponent, or 1 where the exponent is negative. -/
def power (base : Nat) (exponent : Int) : Nat := Nat.pow base exponent.toNat

/-- The bound of the significands: they have 53 binary digits. -/
def significandBound : Nat := Nat.pow 2 53

/-- `n / d / 2 ^ e` to the nearest integer. -/
def scaled (n d : Nat) (e : Int) : Nat := roundDiv (n * power 2 (-e)) (d * power 2 e)

/-- The significand and exponent nearest to a positive fraction, or nothing when it overflows. -/
def nearest? (n d : Nat) : Option (Nat × Int) :=
  let guess : Int := (n.log2 : Int) - (d.log2 : Int) - 53
  let e := max guess (-1074)
  let m := scaled n d e
  let (m, e) := if significandBound ≤ m then (scaled n d (e + 1), e + 1) else (m, e)
  let (m, e) := if m = significandBound then (significandBound / 2, e + 1) else (m, e)
  if 971 < e then none else some (m, e)

/-- The number nearest to `digits * 10 ^ exponent`. -/
def ofDecimal (negative : Bool) (digits : Nat) (exponent : Int) : Binary64 :=
  let magnitude : Int := (Nat.toDigits 10 digits).length + exponent
  if digits = 0 || magnitude < -330 then finite negative 0 0
  else if 330 < magnitude then infinite negative
  else
    match nearest? (digits * power 10 exponent) (power 10 (-exponent)) with
    | some (m, e) => finite negative m (if m = 0 then 0 else e)
    | none => infinite negative

/-- Of the decimals `k * 10 ^ p`, the nearest to `m * 2 ^ e` that reads back as it. -/
def gridPoint? (m : Nat) (e p : Int) : Option Nat :=
  let n := m * power 2 e * power 10 (-p)
  let d := power 2 (-e) * power 10 p
  let low := n / d
  let readsBack (k : Nat) : Bool := ofDecimal false k p == finite false m e
  let high := low + 1
  let lowFirst := 2 * (n % d) < d || (2 * (n % d) == d && low % 2 == 0)
  let (first, second) := if lowFirst then (low, high) else (high, low)
  if readsBack first then some first else if readsBack second then some second else none

/-- Try decimal grids from the coarsest on; the count bounds the number of further grids. -/
def shortestFrom (m : Nat) (e p : Int) : Nat → Nat × Int
  | 0 => (m, e)
  | count + 1 =>
    match gridPoint? m e p with
    | some k => (k, p)
    | none => shortestFrom m e (p - 1) count

/-- The fewest decimal digits that read back as a positive number, with their exponent. -/
def shortest (m : Nat) (e : Int) : Nat × Int :=
  let value := m * power 2 e / power 2 (-e)
  let top : Int :=
    if value = 0 then -((Nat.toDigits 10 (power 2 (-e) / m)).length : Int)
    else (Nat.toDigits 10 value).length
  shortestFrom m e top 25

/-- Digits without the zeros at their end, which move into the exponent. -/
def stripZeros (digits : Text) (exponent : Int) : Text × Int :=
  let kept := (digits.reverse.dropWhile (· = '0')).reverse
  (kept, exponent + (digits.length - kept.length : Nat))

/-- Write digits with the point where the exponent puts it: in place when the first digit stands for
10 ^ 15 down to 10 ^ -4, with one digit in front of the point and a power of ten otherwise. -/
def layOut (digits : Text) (exponent : Int) : Text :=
  let point : Int := digits.length + exponent
  if -4 < point && point ≤ 16 then
    if point ≤ 0 then '0' :: '.' :: List.replicate (-point).toNat '0' ++ digits
    else if (digits.length : Int) ≤ point then
      digits ++ List.replicate (point - digits.length).toNat '0' ++ ['.', '0']
    else digits.take point.toNat ++ '.' :: digits.drop point.toNat
  else
    let tens := point - 1
    let mark := ofNat tens.natAbs
    let tail := 'e' :: (if tens < 0 then '-' else '+') ::
      (List.replicate (2 - mark.length) '0' ++ mark)
    match digits with
    | [] => tail
    | [c] => c :: tail
    | c :: rest => c :: '.' :: rest ++ tail

/-- The text of a number, the shortest that reads back. -/
def toText : Binary64 → Text
  | undefined => "nan".toList
  | infinite negative => (if negative then "-inf" else "inf").toList
  | finite negative m e =>
    let body :=
      if m = 0 then "0.0".toList
      else
        let (k, p) := shortest m e
        let (digits, exponent) := stripZeros (ofNat k) p
        layOut digits exponent
    if negative then '-' :: body else body

/-- An optional sign and a nonempty row of digits after the exponent mark. -/
private def exponent? (t : Text) : Option Int :=
  let (negative, digits) := takeSign t
  if digits.isEmpty || !digits.all Char.isDigit then none
  else
    let n : Int := numeralValue 10 digits
    some (if negative then -n else n)

/-- An unsigned decimal: digits with at most one point among them, and perhaps a power of ten. -/
private def unsigned? (negative : Bool) (t : Text) : Option Binary64 :=
  let whole := t.takeWhile Char.isDigit
  let rest := t.dropWhile Char.isDigit
  let (places, rest) := match rest with
    | '.' :: r => (r.takeWhile Char.isDigit, r.dropWhile Char.isDigit)
    | r => ([], r)
  if whole.isEmpty && places.isEmpty then none
  else
    let value (power : Int) : Binary64 :=
      ofDecimal negative (numeralValue 10 (whole ++ places)) (power - places.length)
    match rest with
    | [] => some (value 0)
    | 'e' :: r | 'E' :: r => (exponent? r).map value
    | _ => none

/-- Digits of every script as ASCII digits, and no underscore but between two digits. -/
private def plainDigits? (afterDigit : Bool) : Text → Option Text
  | [] => some []
  | '_' :: c :: rest =>
    match afterDigit, DecimalDigit.value? c with
    | true, some d => (plainDigits? true rest).map ((ofNat d) ++ ·)
    | _, _ => none
  | c :: rest =>
    match DecimalDigit.value? c with
    | some d => (plainDigits? true rest).map ((ofNat d) ++ ·)
    | none => if c = '_' then none else (plainDigits? false rest).map (c :: ·)

/-- The number that a text writes: a decimal, or a word for an infinity or for no number. -/
def ofText? (t : Text) : Option Binary64 :=
  match plainDigits? false (unpad t) with
  | none => none
  | some plain =>
    let (negative, body) := takeSign plain
    let word := body.map Char.toLower
    if word = "inf".toList || word = "infinity".toList then some (infinite negative)
    else if word = "nan".toList then some undefined
    else unsigned? negative body

end Binary64

end PageMarkdown.Numeral
