import PageMarkdown.Html.PlainText
import PageMarkdown.Markdown.Walk
import PageMarkdown.Settings

/-!
# Conversion

A converter has a depth limit and remembers whether it has ever cut an element, so that it warns
only once. A document is converted by walking its nodes, trimming the result and collapsing blank
lines. Markup is parsed first; where there is no tree, or no room to walk it, its plain text stands
for it.
-/

namespace PageMarkdown.Markdown

open Text Html

/-- A converter of nodes. -/
structure Converter where
  /-- The nesting depth that is walked; nothing is when it is not positive. -/
  limit : Int
  /-- Some element has been cut. -/
  truncated : Bool := false
  deriving DecidableEq, Repr

/-- Tell what marks mean and end at the first fault. The value says whether an element has been cut;
only the first cut is told. -/
def tellMarks (limit : Int) (truncated : Bool) : List Mark → Report Bool
  | [] => .ok truncated
  | .cut element :: others =>
    if truncated then tellMarks limit true others
    else (Report.tell (.truncated limit element)).andThen fun _ => tellMarks limit true others
  | .hollowTable rows :: others =>
    (Report.tell (.tableDropped rows)).andThen fun _ => tellMarks limit truncated others
  | .longNumeral n :: _ => .fault (.longNumeral n)

namespace Converter

/-- The converter of the settings, with the limit that the stack has room for. -/
def make (env : Environment) (settings : ConvertSettings) : Converter :=
  ⟨min settings.maxDepth env.safeDepth, false⟩

/-- The room of an outermost element. -/
def room (c : Converter) : Nat := c.limit.toNat

/-- Finish a walk: tell its marks, and remember a cut. -/
def finish {α : Type} (c : Converter) (m : Marked α) : Report (α × Converter) :=
  (tellMarks c.limit c.truncated m.marks).andThen fun cut =>
    .ok (m.value, { c with truncated := cut })

/-- Convert one node inside lists of a depth. -/
def convert (c : Converter) (depth : Nat) (node : Node) : Report (Text × Converter) :=
  c.finish (walk c.room depth node)

/-- Convert nodes inside lists of a depth. -/
def convertAll (c : Converter) (depth : Nat) (nodes : List Node) : Report (Text × Converter) :=
  c.finish (walkAll c.room depth nodes)

/-- The Markdown of a whole document, from the Markdown of its nodes. -/
def settle (t : Text) : Text := trim (collapseBlankLines (trim t))

/-- Convert a whole document. -/
def convertDocument (c : Converter) (nodes : List Node) : Report (Text × Converter) :=
  c.finish ((walkAll c.room 0 nodes).map settle)

/-- The rows of a table with the given children. -/
def tableRows (c : Converter) (children : List Node) : Report (List TableRow × Converter) :=
  c.finish (walkRows c.room false children)

end Converter

/-- The tree of a markup text; none when the parser of the settings does not exist or refuses it. -/
def parseWith (env : Environment) (settings : ConvertSettings) (markup : Text) :
    Report (Option (List Node)) :=
  match env.builder? settings.parser with
  | none => do
    Report.tell (.parserMissing settings.parser)
    return none
  | some build =>
    match build markup with
    | .ok nodes => return some nodes
    | .error .rejectedMarkup => do
      Report.tell .markupRejected
      return none
    | .error e => .fault e

/-- What is converted of a document: its body, if it has one. -/
def bodyOf (nodes : List Node) : List Node :=
  match Node.first? "body".toList nodes with
  | some body => body.children
  | none => nodes

/-- Convert the nodes of a document that the markup wrote. -/
def convertTree (env : Environment) (settings : ConvertSettings) (markup : Text)
    (nodes : List Node) : Report Text :=
  if env.stackFull then do
    Report.tell .stackExhausted
    return plainText markup
  else do
    let (output, _) ← (Converter.make env settings).convertDocument (bodyOf nodes)
    return output

/-- Convert markup to Markdown. -/
def ofHtml (env : Environment) (settings : Option ConvertSettings) (markup : Text) : Report Text :=
  if isAllBlank markup then return []
  else do
    let settings ← ConvertSettings.orDefault env settings
    match ← parseWith env settings markup with
    | none => return plainText markup
    | some nodes => convertTree env settings markup nodes

end PageMarkdown.Markdown
