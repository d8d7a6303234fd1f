import PageMarkdown.Html.Node
import PageMarkdown.Html.Token

/-!
# Building the tree

Tokens become a tree by a stack of open elements. Data gathers until a tag, a comment or a
declaration comes and then is one string. No element is closed by implication: an end tag closes up
to the nearest open element of its name and is dropped when there is none. Void elements and
elements that close themselves do so at once; a void element that does not close itself pays for one
later end tag of its name. What is open at the end is closed there.
-/

namespace PageMarkdown.Html

open Text

namespace Tree

/-- Elements without content. -/
def voidNames : List Text :=
  ["area", "base", "br", "col", "embed", "hr", "img", "input", "keygen", "link", "menuitem", "meta",
    "param", "source", "track", "wbr", "basefont", "bgsound", "command", "frame", "image",
    "isindex", "nextid", "spacer"].map String.toList

/-- An element that closes at once. -/
def isVoid (name : Text) : Bool := voidNames.contains name

/-- Attributes whose value is a list of words, with the elements that they are so on; no element
means every element. -/
def wordAttributes : List (String × List String) :=
  [("class", []), ("accesskey", []), ("dropzone", []), ("rel", ["a", "link", "area"]),
    ("rev", ["a", "link"]), ("headers", ["td", "th"]), ("accept-charset", ["form"]),
    ("archive", ["object"]), ("sizes", ["icon"]), ("sandbox", ["iframe"]), ("for", ["output"])]

/-- The attribute holds a list of words on this element. -/
def holdsWords (element key : Text) : Bool :=
  wordAttributes.any fun entry => entry.1.toList = key &&
    (entry.2.isEmpty || entry.2.any fun name => name.toList = element)

/-- The attributes of an element: of several with one name the last value counts, at the place of
the first. -/
def attributesOf (element : Text) (written : List (Text × Text)) : Attributes :=
  written.foldl (fun found entry =>
    let value := if holdsWords element entry.1 then AttributeValue.words (words entry.2)
      else .single entry.2
    Attributes.set entry.1 value found) []

/-- An open element, with its children so far in reverse order. -/
structure Frame where
  /-- The name of the element. -/
  name : Text
  /-- Its attributes. -/
  attributes : Attributes
  /-- Its children so far, the last one first. -/
  reversed : List Node

/-- The element of a frame. -/
def Frame.close (frame : Frame) : Node :=
  .element frame.name frame.attributes frame.reversed.reverse

/-- A tree in the making. -/
structure State where
  /-- The open elements, the innermost one first. -/
  frames : List Frame
  /-- The finished nodes outside every open element, the last one first. -/
  reversed : List Node
  /-- Data that has not become a string yet, in reverse order of its pieces. -/
  pending : List Text
  /-- Names of void elements whose end tag is still to be ignored. -/
  paid : List Text

namespace State

/-- Add a node to the innermost open element. -/
def add (node : Node) (s : State) : State :=
  match s.frames with
  | [] => { s with reversed := node :: s.reversed }
  | frame :: outer =>
    { s with frames := { frame with reversed := node :: frame.reversed } :: outer }

/-- The kind of plain data inside the open elements: the innermost one with a kind of its own
decides. -/
def dataKind (s : State) : StringKind :=
  let kindOf (frame : Frame) : Option StringKind :=
    if frame.name = "script".toList then some .script
    else if frame.name = "style".toList then some .stylesheet
    else if frame.name = "template".toList then some .template
    else if frame.name = "rt".toList then some .rubyText
    else if frame.name = "rp".toList then some .rubyParenthesis
    else none
  (s.frames.findSome? kindOf).getD .plain

/-- Blank strings keep their spelling here. -/
def keepsBlanks (s : State) : Bool :=
  s.frames.any fun frame => frame.name = "pre".toList || frame.name = "textarea".toList

/-- A string as it enters the tree: one of blanks alone shrinks to a line feed or a space. -/
def settle (s : State) (t : Text) : Text :=
  let isPlainBlank (c : Char) : Bool :=
    c = ' ' || c = '\n' || c = '\t' || c = '\x0c' || c = '\r'
  if t.all isPlainBlank && !s.keepsBlanks then if t.contains '\n' then ['\n'] else [' '] else t

/-- Turn pending data into a string. -/
def flush (s : State) : State :=
  match s.pending with
  | [] => s
  | pieces =>
    { s with pending := [] }.add (.text s.dataKind (s.settle pieces.reverse.flatten))

/-- Add a string of a special kind. -/
def special (kind : StringKind) (t : Text) (s : State) : State :=
  let s := s.flush
  s.add (.text kind (s.settle t))

/-- Close the innermost open element. -/
def pop (s : State) : State :=
  match s.frames with
  | [] => s
  | frame :: outer => { s with frames := outer }.add frame.close

/-- Close open elements up to the first of a name; the count bounds their number. -/
def popThrough (name : Text) : Nat → State → State
  | 0, s => s
  | count + 1, s =>
    match s.frames with
    | [] => s
    | frame :: _ => if frame.name = name then s.pop else popThrough name count s.pop

/-- Close the nearest open element of a name, if any. -/
def close (name : Text) (s : State) : State :=
  let s := s.flush
  if s.frames.any fun frame => frame.name = name then popThrough name s.frames.length s else s

/-- Open an element. -/
def openElement (name : Text) (attributes : List (Text × Text)) (s : State) : State :=
  let s := s.flush
  { s with frames := ⟨name, attributesOf name attributes, []⟩ :: s.frames }

/-- An end tag, which a void element before it may have paid for. -/
def endTag (name : Text) (s : State) : State :=
  if s.paid.contains name then { s with paid := s.paid.erase name } else s.close name

/-- Take one token. -/
def step (s : State) : Token → State
  | .data t => { s with pending := t :: s.pending }
  | .opening name attributes true => (s.openElement name attributes).close name
  | .opening name attributes false =>
    let s := s.openElement name attributes
    if isVoid name then { s.close name with paid := name :: s.paid } else s
  | .closing name => s.endTag name
  | .comment t => s.special .comment t
  | .doctype t => s.special .doctype t
  | .instruction t => s.special .instruction t
  | .marked t =>
    if (t.take 6).map Char.toUpper = "CDATA[".toList then s.special .cdata (t.drop 6)
    else s.special .declaration t

/-- Close everything that is open. -/
def finish (s : State) : List Node :=
  let s := s.flush
  (s.frames.foldl (fun s _ => s.pop) s).reversed.reverse

end State

/-- The tree of a list of tokens. -/
def ofTokens (tokens : List Token) : List Node :=
  (tokens.foldl State.step ⟨[], [], [], []⟩).finish

end Tree

/-- The document that a markup text writes. The characters of stray numbers are given. -/
def parse (stray : Nat → Char) (markup : Text) : Except Malformed (List Node) :=
  (Token.scan stray markup).map Tree.ofTokens

end PageMarkdown.Html
