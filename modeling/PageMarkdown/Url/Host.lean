import PageMarkdown.Text.Quoted

/-!
# Hosts in brackets

A host between square brackets must be an address: six groups and more of hexadecimal digits with
the usual abbreviation for a row of zeros, or the form reserved for later versions. A dotted address
may stand for the last two groups, but not for the whole host.
-/

namespace PageMarkdown.Url

open Text

/-- What makes a URL unusable. -/
inductive Defect where
  /-- Square brackets without partner or out of place. -/
  | brackets
  /-- A reserved address form that is misspelt. -/
  | reservedAddress
  /-- A host in brackets that is no address. -/
  | notAnAddress (host : Text)
  /-- A dotted address in brackets. -/
  | dottedAddress
  /-- An authority with a character that stands for a delimiter. -/
  | disguisedDelimiter (authority : Text)
  deriving DecidableEq, Repr

/-- The wording of a defect. -/
def Defect.message : Defect → Text
  | brackets => "Invalid IPv6 URL".toList
  | reservedAddress => "IPvFuture address is invalid".toList
  | notAnAddress host =>
    quoted host ++ " does not appear to be an IPv4 or IPv6 address".toList
  | dottedAddress => "An IPv4 address cannot be in brackets".toList
  | disguisedDelimiter authority =>
    "netloc '".toList ++ authority ++
      "' contains invalid characters under NFKC normalization".toList

/-- A number from 0 to 255 in decimal without leading zeros. -/
def isOctet (t : Text) : Bool :=
  !t.isEmpty && t.all Char.isDigit && t.length ≤ 3 && (t = ['0'] || t.head? != some '0') &&
    numeralValue 10 t ≤ 255

/-- Four octets between points. -/
def isDotted (t : Text) : Bool :=
  let octets := fields '.' t
  octets.length = 4 && octets.all isOctet

/-- One to four hexadecimal digits. -/
def isGroup (t : Text) : Bool := !t.isEmpty && t.length ≤ 4 && t.all isHexDigit

/-- Groups between colons, eight of them, or fewer with one gap. A dotted address at the end counts
as two groups. -/
def isGrouped (t : Text) : Bool :=
  let written := fields ':' t
  let last := written.getLastD []
  let dotted := last.contains '.'
  let groups := if dotted then written.dropLast ++ [['0'], ['0']] else written
  let inner := (groups.drop 1).dropLast
  let gap := groups.length - 2 - (inner.dropWhile fun g => !g.isEmpty).length
  let front := groups.take (gap + 1)
  let back := groups.drop (gap + 2)
  3 ≤ written.length && (!dotted || isDotted last) && groups.length ≤ 9 &&
    match inner.countP List.isEmpty with
    | 0 => groups.length = 8 && groups.all isGroup
    | 1 =>
      let high := if front.head? = some [] then front.drop 1 else front
      let low := if back.getLast? = some [] then back.dropLast else back
      (high.length = front.length || high.isEmpty) && (low.length = back.length || low.isEmpty) &&
        high.length + low.length ≤ 7 && high.all isGroup && low.all isGroup
    | _ => false

/-- An address of groups, with a zone behind a percent sign if one is named. -/
def isAddress (t : Text) : Bool :=
  match cut '%' t with
  | (address, none) => isGrouped address
  | (address, some zone) => !zone.isEmpty && !zone.contains '%' && isGrouped address

/-- The form reserved for later versions: the letter v, hexadecimal digits, a point and more. -/
def isReserved (t : Text) : Bool :=
  match t with
  | 'v' :: rest =>
    match rest.takeWhile isHexDigit, rest.dropWhile isHexDigit with
    | _ :: _, '.' :: _ :: _ => true
    | _, _ => false
  | _ => false

/-- The host between brackets is one that may stand there. -/
def checkBracketed (host : Text) : Except Defect Unit :=
  if host.head? = some 'v' then if isReserved host then .ok () else .error .reservedAddress
  else if isDotted host then .error .dottedAddress
  else if isAddress host then .ok ()
  else .error (.notAnAddress host)

/-- The brackets of an authority stand around its host, with nothing before them but user
information, and nothing behind them but what a colon announces. -/
def checkBrackets (authority : Text) : Except Defect Unit :=
  match authority.contains '[', authority.contains ']' with
  | false, false => .ok ()
  | true, true =>
    let place := (cutLast '@' authority).2
    match cut '[' place with
    | (host, none) => checkBracketed (cut ':' host).1
    | (front, some bracketed) =>
      if !front.isEmpty then .error .brackets
      else match cut ']' bracketed with
        | (host, some (c :: _)) => if c = ':' then checkBracketed host else .error .brackets
        | (host, _) => checkBracketed host
  | _, _ => .error .brackets

/-- Characters whose compatibility form holds a delimiter of the authority. -/
def disguised : List Nat :=
  [0x2047, 0x2048, 0x2049, 0x2100, 0x2101, 0x2105, 0x2106, 0x2A74, 0xFE13, 0xFE16, 0xFE55, 0xFE56,
    0xFE5F, 0xFE6B, 0xFF03, 0xFF0F, 0xFF1A, 0xFF1F, 0xFF20]

/-- No character of the authority stands for a delimiter. -/
def checkDisguise (authority : Text) : Except Defect Unit :=
  if authority.any fun c => disguised.contains c.toNat then .error (.disguisedDelimiter authority)
  else .ok ()

end PageMarkdown.Url
