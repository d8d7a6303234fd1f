import PageMarkdown.Html.Tree
import PageMarkdown.Report

/-!
# What surrounds a run

A run depends on what it does not decide: the room on the stack, a setting from outside, what tree
builders make of markup, and the encodings that text is written in. One tree builder is described in
full; the others are known by the trees that they give.
-/

namespace PageMarkdown

open Text Html

/-- The tree of a markup text, or the fault that building it ends in. -/
abbrev TreeBuilder := Text → Except Fault (List Node)

/-- Why markup has no tree, as a fault. -/
def Html.Malformed.toFault : Malformed → Fault
  | rejected => .rejectedMarkup
  | longNumeral n => .longNumeral n

/-- What surrounds a run. -/
structure Environment where
  /-- The number of stack frames that a run may use. -/
  frames : Int := 1000
  /-- The depth set from outside, as written. -/
  depthSetting : Option Text := none
  /-- The stack has no room for a walk at all. -/
  stackFull : Bool := false
  /-- The characters that stray numbers in markup come to. -/
  stray : Nat → Char := fun _ => '\uFFFD'
  /-- The tree builders of parsers other than the default one, by the names of these. -/
  otherBuilder : Text → Option TreeBuilder := fun _ => none
  /-- The characters that stand for halves of surrogate pairs. No octets write such a half. -/
  isHalf : Char → Bool := fun _ => false
  /-- The characters that the encoding of standard output has. -/
  isPrintable : Char → Bool := fun _ => true

/-- The name of the parser that is used when none is asked for. -/
def defaultParser : Text := "html.parser".toList

namespace Environment

/-- The deepest nesting that the stack has room for: six frames for each level, beside 150 that are
kept free. -/
def safeDepth (env : Environment) : Int := max 1 (Int.fdiv (env.frames - 150) 6)

/-- The tree that the default parser makes of markup. -/
def build (env : Environment) : TreeBuilder := fun markup =>
  (parse env.stray markup).mapError Malformed.toFault

/-- The tree builder of a parser, if there is a parser of this name. -/
def builder? (env : Environment) (parser : Text) : Option TreeBuilder :=
  if parser = defaultParser then some env.build else env.otherBuilder parser

end Environment

end PageMarkdown
