import PageMarkdown.Html.Tree

/-!
# Writing markup

A tree is written back as markup without any layout of its own. Strings and attribute values are
escaped, except below scripts and style sheets; attributes come in the order of their names; a void
element without children is closed at once. A declared encoding is written as the one in use.
-/

namespace PageMarkdown.Html

open Text

/-- A string with its reserved characters written as references. -/
def escape (t : Text) : Text :=
  t.flatMap fun c =>
    if c = '&' then "&amp;".toList
    else if c = '<' then "&lt;".toList
    else if c = '>' then "&gt;".toList
    else [c]

/-- An attribute value between quotes: double ones unless it holds some and no single ones. -/
def quoteValue (t : Text) : Text :=
  let escaped := escape t
  if escaped.contains '"' then
    if escaped.contains '\'' then '"' :: replace '"' "&quot;".toList escaped ++ ['"']
    else '\'' :: escaped ++ ['\'']
  else '"' :: escaped ++ ['"']

/-- The encoding that markup is written in. -/
def encoding : Text := "utf-8".toList

/-- Write the encoding over what follows each mention of it in a content type. Such a mention stands
at the start of a line, or behind a blank or a semicolon, and reaches up to the next semicolon; the
flag says that one may begin here, and `skip` counts characters that are written over. -/
def substituteFrom : Bool → Nat → Text → Text
  | _, _, [] => []
  | _, skip + 1, c :: t => substituteFrom (isBlank c) skip t
  | mayBegin, 0, c :: t =>
    match if mayBegin then after? "charset=".toList (c :: t) else none with
    | some rest =>
      "charset=".toList ++ encoding ++
        substituteFrom false (7 + (rest.takeWhile (· != ';')).length) t
    | none => c :: substituteFrom (isBlank c || c = ';') 0 t

/-- The attribute is present with a value other than nothing. -/
private def hasValue (attributes : Attributes) (name : String) : Bool :=
  (attributes.lookup name.toList).isSome

/-- The value of an attribute as it is written on an element of a name. -/
def writtenValue (element : Text) (attributes : Attributes) (name value : Text) : Text :=
  if element != "meta".toList then value
  else if hasValue attributes "charset" then if name = "charset".toList then encoding else value
  else if name = "content".toList && hasValue attributes "http-equiv" &&
      lower (attributes.text "http-equiv") = "content-type".toList then
    substituteFrom true 0 value
  else value

/-- Put an attribute in front of the first one whose name is not smaller. -/
def insertByName (entry : Text × AttributeValue) : Attributes → Attributes
  | [] => [entry]
  | other :: others =>
    if decide (other.1 < entry.1) then other :: insertByName entry others
    else entry :: other :: others

/-- The attributes in the order of their names. -/
def sortedByName (attributes : Attributes) : Attributes := attributes.foldr insertByName []

/-- The attributes of an element, each behind a space. -/
def attributesMarkup (element : Text) (attributes : Attributes) : Text :=
  (sortedByName attributes).flatMap fun entry =>
    ' ' :: entry.1 ++ '=' ::
      quoteValue (writtenValue element attributes entry.1 entry.2.toText)

/-- A string of some kind; `raw` says that it stands directly below a script or style sheet. -/
def stringMarkup (raw : Bool) (kind : StringKind) (t : Text) : Text :=
  match kind with
  | .comment => "<!--".toList ++ t ++ "-->".toList
  | .cdata => "<![CDATA[".toList ++ t ++ "]]>".toList
  | .instruction => "<?".toList ++ t ++ ['>']
  | .declaration => "<?".toList ++ t ++ "?>".toList
  | .doctype => "<!DOCTYPE ".toList ++ t ++ ">\n".toList
  | _ => if raw then t else escape t

mutual

/-- The markup of a node. -/
def nodeMarkup (raw : Bool) : Node → Text
  | .text kind content => stringMarkup raw kind content
  | .element name attributes kids =>
    let start := '<' :: name ++ attributesMarkup name attributes
    if Tree.isVoid name && kids.isEmpty then start ++ ['/', '>']
    else start ++ '>' :: nodesMarkup (Token.isRaw name) kids ++ '<' :: '/' :: name ++ ['>']

/-- The markup of nodes, one after another. -/
def nodesMarkup (raw : Bool) : List Node → Text
  | [] => []
  | node :: others => nodeMarkup raw node ++ nodesMarkup raw others

end

/-- The markup of a document. -/
def markupOf (nodes : List Node) : Text := nodesMarkup false nodes

end PageMarkdown.Html
