import PageMarkdown.Text
import PageMarkdown.Text.LetterCase

/-!
# Lower case

Lower-casing works character by character, with two exceptions. A capital I with a dot becomes two
characters, and a capital sigma that ends a word becomes the final sigma: the nearest neighbour
before it that is not ignorable is cased, and the nearest one after it is not.
-/

namespace PageMarkdown.Text

open LetterCase

private def inIntervals (intervals : List (Nat × Nat)) (c : Char) : Bool :=
  intervals.any fun interval => interval.1 ≤ c.toNat && c.toNat ≤ interval.2

/-- A letter that has a case. -/
def isCased (c : Char) : Bool :=
  if c.toNat < 0x80 then c.isAlpha else inIntervals casedIntervals c

/-- A character that is skipped when the neighbours of a sigma are examined. -/
def isCaseIgnorable (c : Char) : Bool := inIntervals ignorableIntervals c

/-- The lower-case form of one character outside its context. -/
def lowerChar (c : Char) : Text :=
  if c.toNat < 0x80 then [c.toLower]
  else if c = '\u0130' then ['i', '\u0307']
  else match runs.find? (·.covers c.toNat) with
    | some r => [Char.ofNat ((c.toNat : Int) + r.shift).toNat]
    | none => [c]

/-- The nearest character that is not ignorable is cased. -/
def startsCased (t : Text) : Bool := (t.dropWhile isCaseIgnorable).head?.any isCased

/-- Lower a text; the flag says that the nearest character before it that counts is cased. -/
def lowerFrom (before : Bool) : Text → Text
  | [] => []
  | c :: rest =>
    (if c = '\u03A3' then [if before && !startsCased rest then '\u03C2' else '\u03C3']
      else lowerChar c) ++
      lowerFrom (if isCaseIgnorable c then before else isCased c) rest

/-- The text in lower case. -/
def lower (t : Text) : Text := lowerFrom false t

/-- The ASCII letter that a character is read as when case is ignored. The long s, both foreign
forms of i and the Kelvin sign are read as s, i and k. -/
def foldChar (c : Char) : Char :=
  if c = '\u017F' then 's'
  else if c = '\u0130' || c = '\u0131' then 'i'
  else if c = '\u212A' then 'k'
  else c.toLower

/-- What follows an initial word of lower-case ASCII letters, case ignored. -/
def afterFolded? : Text → Text → Option Text
  | [], t => some t
  | _ :: _, [] => none
  | p :: word, c :: t => if p = foldChar c then afterFolded? word t else none

end PageMarkdown.Text
