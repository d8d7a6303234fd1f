import PageMarkdown.Text.Blank
import PageMarkdown.Text.Lowercase

/-!
# Plain text without a tree

Where markup has no tree its text is what stands outside of tags. Scripts and style sheets go first,
each from its start tag through the end tag that repeats the name; then everything from a less-than
sign through the next greater-than sign goes.
-/

namespace PageMarkdown.Html

open Text

/-- The characters are the same letter up to case. -/
def sameLetter (c d : Char) : Bool := (lowerChar c).head? = (lowerChar d).head?

/-- What follows a word at the start of a text, up to case. -/
def afterWord? : Text → Text → Option Text
  | [], t => some t
  | _ :: _, [] => none
  | p :: word, c :: t => if sameLetter p c then afterWord? word t else none

/-- What follows the end tag of an element at the start of a text. -/
def afterEndTag? (name : Text) : Text → Option Text
  | '<' :: '/' :: t =>
    match (afterWord? name t).map trimLeft with
    | some ('>' :: rest) => some rest
    | _ => none
  | _ => none

/-- What follows the nearest end tag of an element. -/
def behindEndTag? (name : Text) : Text → Option Text
  | [] => none
  | c :: t =>
    match afterEndTag? name (c :: t) with
    | some rest => some rest
    | none => behindEndTag? name t

/-- The name of a script or a style sheet at the start of a text, as written, and what follows. -/
def hiddenName? (t : Text) : Option (Text × Text) :=
  let named (word : String) : Option (Text × Text) :=
    (afterFolded? word.toList t).map fun rest => (t.take word.toList.length, rest)
  match named "script" with
  | some found => some found
  | none => named "style"

/-- What follows a whole script or style sheet at the start of a text. -/
def afterHidden? : Text → Option Text
  | '<' :: t =>
    match hiddenName? t with
    | none => none
    | some (name, rest) =>
      match rest.dropWhile (· != '>') with
      | _ :: inside => behindEndTag? name inside
      | [] => none
  | _ => none

/-- Drop scripts and style sheets from a text whose first `skip` characters are dropped already. -/
def dropHiddenFrom : Nat → Text → Text
  | _, [] => []
  | skip + 1, _ :: t => dropHiddenFrom skip t
  | 0, c :: t =>
    match afterHidden? (c :: t) with
    | some rest => dropHiddenFrom (t.length - rest.length) t
    | none => c :: dropHiddenFrom 0 t

/-- The text without scripts and style sheets. -/
def dropHidden (t : Text) : Text := dropHiddenFrom 0 t

/-- Drop tags; the flag says that the text begins inside of one. -/
def dropTagsFrom : Bool → Text → Text
  | _, [] => []
  | true, c :: t => dropTagsFrom (c != '>') t
  | false, c :: t =>
    if c = '<' && t.contains '>' then dropTagsFrom true t else c :: dropTagsFrom false t

/-- The text without anything between angle brackets. -/
def dropTags (t : Text) : Text := dropTagsFrom false t

/-- The text of markup that has no tree. -/
def plainText (markup : Text) : Text := trim (dropTags (dropHidden markup))

end PageMarkdown.Html
