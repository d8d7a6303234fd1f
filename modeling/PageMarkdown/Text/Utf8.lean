import PageMarkdown.Text

/-!
# UTF-8

Writing a text as octets, and reading octets that need not be a text. The reader follows a character
octet by octet and knows which octets may come next; where the next octet cannot continue the
character, one replacement character stands for the octets read so far, and reading starts afresh at
that octet.
-/

namespace PageMarkdown.Text

/-- The number of octets of a text. -/
def octetCount (t : Text) : Nat := t.foldl (fun n c => n + c.utf8Size) 0

/-- The octets of a text. -/
def octets (t : Text) : List UInt8 :=
  t.flatMap fun c =>
    let n := c.toNat
    let tail (bits : Nat) : UInt8 := UInt8.ofNat (0x80 + bits % 0x40)
    if n < 0x80 then [UInt8.ofNat n]
    else if n < 0x800 then [UInt8.ofNat (0xC0 + n / 0x40), tail n]
    else if n < 0x10000 then [UInt8.ofNat (0xE0 + n / 0x1000), tail (n / 0x40), tail n]
    else
      [UInt8.ofNat (0xF0 + n / 0x40000), tail (n / 0x1000), tail (n / 0x40), tail n]

/-- A character of which some octets have been read. -/
structure Partial where
  /-- The bits read so far. -/
  bits : Nat
  /-- How many octets follow, less one. -/
  owed : Nat
  /-- The least octet that may come next. -/
  least : Nat
  /-- The greatest octet that may come next. -/
  greatest : Nat

/-- Read an octet between characters: what it writes, and the character that it opens. -/
def openOctet (b : Nat) : Text × Option Partial :=
  if b < 0x80 then ([Char.ofNat b], none)
  else if b < 0xC2 then (['\uFFFD'], none)
  else if b < 0xE0 then ([], some ⟨b - 0xC0, 0, 0x80, 0xBF⟩)
  else if b = 0xE0 then ([], some ⟨0, 1, 0xA0, 0xBF⟩)
  else if b = 0xED then ([], some ⟨0xD, 1, 0x80, 0x9F⟩)
  else if b < 0xF0 then ([], some ⟨b - 0xE0, 1, 0x80, 0xBF⟩)
  else if b = 0xF0 then ([], some ⟨0, 2, 0x90, 0xBF⟩)
  else if b < 0xF4 then ([], some ⟨b - 0xF0, 2, 0x80, 0xBF⟩)
  else if b = 0xF4 then ([], some ⟨4, 2, 0x80, 0x8F⟩)
  else (['\uFFFD'], none)

/-- Read octets from a state. -/
def ofOctetsFrom : Option Partial → List UInt8 → Text
  | none, [] => []
  | some _, [] => ['\uFFFD']
  | none, b :: rest =>
    let (written, next) := openOctet b.toNat
    written ++ ofOctetsFrom next rest
  | some p, b :: rest =>
    if p.least ≤ b.toNat && b.toNat ≤ p.greatest then
      let bits := 0x40 * p.bits + (b.toNat - 0x80)
      match p.owed with
      | 0 => Char.ofNat bits :: ofOctetsFrom none rest
      | owed + 1 => ofOctetsFrom (some ⟨bits, owed, 0x80, 0xBF⟩) rest
    else
      let (written, next) := openOctet b.toNat
      '\uFFFD' :: written ++ ofOctetsFrom next rest

/-- The text that octets write, with one replacement character for each maximal piece that is not
part of a text. -/
def ofOctets (bytes : List UInt8) : Text := ofOctetsFrom none bytes

end PageMarkdown.Text
