import PageMarkdown.Text.Blank

/-!
# Document trees

A document is a list of nodes. A node is a string of some kind or an element with a name, attributes
and children; the name keeps its spelling. Strings that a reader sees are plain; the others hold
comments, declarations, and the contents of elements that are not part of the running text.
-/

namespace PageMarkdown.Html

open Text

/-- What a string in a document is. -/
inductive StringKind where
  /-- Running text. -/
  | plain
  /-- A comment. -/
  | comment
  /-- A marked section of character data. -/
  | cdata
  /-- A document type. -/
  | doctype
  /-- A declaration of any other sort. -/
  | declaration
  /-- A processing instruction. -/
  | instruction
  /-- The text of a script. -/
  | script
  /-- The text of a style sheet. -/
  | stylesheet
  /-- Text inside a template. -/
  | template
  /-- Text of a ruby annotation. -/
  | rubyText
  /-- A parenthesis around a ruby annotation. -/
  | rubyParenthesis
  deriving DecidableEq, Repr

namespace StringKind

/-- Strings that the conversion to Markdown reads. -/
def isRead : StringKind → Bool
  | comment | cdata | doctype | declaration | instruction => false
  | _ => true

/-- Strings that belong to the text of an element around them. -/
def isInnerText : StringKind → Bool
  | plain | cdata => true
  | _ => false

end StringKind

/-- The value of an attribute. -/
inductive AttributeValue where
  /-- One text. -/
  | single (t : Text)
  /-- A list of words. -/
  | words (ws : List Text)
  deriving DecidableEq, Repr

/-- The value as one text, words joined by single spaces. -/
def AttributeValue.toText : AttributeValue → Text
  | single t => t
  | words ws => [' '].intercalate ws

/-- Attributes in the order of their first appearance. -/
abbrev Attributes := List (Text × AttributeValue)

/-- The value of an attribute, empty when it is absent. -/
def Attributes.text (attributes : Attributes) (name : String) : Text :=
  match attributes.lookup name.toList with
  | some value => value.toText
  | none => []

/-- Give an attribute a value, in its place when it is present and at the end otherwise. -/
def Attributes.set (name : Text) (value : AttributeValue) : Attributes → Attributes
  | [] => [(name, value)]
  | (n, v) :: others =>
    if n = name then (n, value) :: others else (n, v) :: Attributes.set name value others

/-- A node of a document tree. -/
inductive Node where
  /-- A string. -/
  | text (kind : StringKind) (content : Text)
  /-- An element. -/
  | element (name : Text) (attributes : Attributes) (children : List Node)
  deriving Repr

namespace Node

/-- The children of an element; a string has none. -/
def children : Node → List Node
  | text _ _ => []
  | element _ _ kids => kids

/-- The node is an element of exactly this name. -/
def isNamed (name : Text) : Node → Bool
  | text _ _ => false
  | element n _ _ => n = name

mutual

/-- A node and all nodes below it, in document order. -/
def preorder : Node → List Node
  | text kind content => [text kind content]
  | element name attributes kids => element name attributes kids :: preorderAll kids

/-- All nodes of a list of trees, in document order. -/
def preorderAll : List Node → List Node
  | [] => []
  | node :: others => preorder node ++ preorderAll others

end

/-- The elements of one name, in document order. -/
def named (name : Text) (nodes : List Node) : List Node := (preorderAll nodes).filter (isNamed name)

/-- The first element of a name in document order. -/
def first? (name : Text) (nodes : List Node) : Option Node :=
  (preorderAll nodes).find? (isNamed name)

/-- The strings that belong to the text of a list of trees, in document order. -/
def innerStrings (nodes : List Node) : List Text :=
  (preorderAll nodes).filterMap fun
    | text kind content => if kind.isInnerText then some content else none
    | element _ _ _ => none

/-- The text of a list of trees. -/
def innerText (nodes : List Node) : Text := (innerStrings nodes).flatten

/-- The single string of an element: its only child, or the single string of its only child. -/
def onlyString? : Node → Option Text
  | text _ content => some content
  | element _ _ [kid] => onlyString? kid
  | element _ _ _ => none

end Node

end PageMarkdown.Html
