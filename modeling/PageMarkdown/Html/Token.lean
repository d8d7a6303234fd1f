import PageMarkdown.Html.Reference
import PageMarkdown.Text.Blank
import PageMarkdown.Text.Lowercase

/-!
# Markup tokens

Markup is read from left to right into tokens: character data, tags, comments and declarations. A
construct that the text ends inside of is incomplete. A first pass stops at the first such
construct, and a second pass reads what is left, taking each incomplete construct as character data.
Inside a script or a style sheet only the matching end tag is recognised.
-/

namespace PageMarkdown.Html

open Text Numeral

/-- A piece of markup. -/
inductive Token where
  /-- Character data, references resolved. -/
  | data (t : Text)
  /-- A start tag with its attributes in order; `closed` when it ends its element at once. -/
  | opening (name : Text) (attributes : List (Text × Text)) (closed : Bool)
  /-- An end tag. -/
  | closing (name : Text)
  /-- A comment. -/
  | comment (t : Text)
  /-- A document type, without its keyword. -/
  | doctype (t : Text)
  /-- A marked section, keyword included. -/
  | marked (t : Text)
  /-- A processing instruction. -/
  | instruction (t : Text)
  deriving DecidableEq, Repr

/-- Why markup has no tokens. -/
inductive Malformed where
  /-- A marked section without a known keyword. -/
  | rejected
  /-- A decimal character reference with too many digits. -/
  | longNumeral (n : TooLong)
  deriving DecidableEq, Repr

namespace Token

/-- What was found at the start of a text. -/
inductive Reading where
  /-- Tokens, the text behind them, and the element whose raw text begins there, if any. -/
  | complete (tokens : List Token) (rest : Text) (raw : Option Text)
  /-- A construct that the text ends inside of. -/
  | incomplete

/-- The text before the first place where `closer` matches, and what it leaves. -/
def seek (closer : Text → Option Text) : Text → Option (Text × Text)
  | [] => none
  | c :: t =>
    match closer (c :: t) with
    | some rest => some ([], rest)
    | none => (seek closer t).map fun found => (c :: found.1, found.2)

/-- The text before the first `c`, and the text behind it. -/
def through (c : Char) (t : Text) : Option (Text × Text) :=
  seek (fun u => match u with
    | d :: rest => if d = c then some rest else none
    | [] => none) t

/-- The given characters in order, with blanks allowed in front of each but the first. -/
def spaced? : Text → Text → Option Text
  | [], t => some t
  | c :: cs, t =>
    match t with
    | d :: rest =>
      if d = c then spaced? cs (match cs with | [] => rest | _ => trimLeft rest) else none
    | [] => none

/-- The end of a comment. -/
def commentEnd? (t : Text) : Option Text :=
  match t with
  | '-' :: rest => spaced? ['-', '>'] rest
  | _ => none

/-- A character of a tag name. -/
def isTagChar (c : Char) : Bool :=
  c != '\t' && c != '\n' && c != '\r' && c != '\x0c' && c != ' ' && c != '/' && c != '>' &&
    c != '\x00'

/-- The text without blanks in front, nor slashes that do not end a tag. -/
def skipSeparators : Text → Text
  | [] => []
  | c :: rest =>
    if isBlank c || (c = '/' && rest.head? != some '>') then skipSeparators rest else c :: rest

/-- The character in front of a text once its separators are skipped, where `last` is the one in
front of all of it. A blank stands for any separator. -/
def beforeNext (last : Char) (t : Text) : Char :=
  match t with
  | c :: rest => if isBlank c || (c = '/' && rest.head? != some '>') then ' ' else last
  | [] => last

/-- The value of an attribute as it is written. -/
structure WrittenValue where
  /-- The value without its quotes. -/
  text : Text
  /-- The last character that was read for it. -/
  last : Char
  /-- The text behind it. -/
  rest : Text

/-- A value without quotes: it reaches up to a blank or the end of the tag. -/
def bareValue (t : Text) : WrittenValue :=
  let (text, rest) := t.span fun c => c != '>' && !isBlank c
  ⟨text, text.getLastD '=', rest⟩

/-- The value of an attribute behind its name; nothing when the text has no value. An opening quote
that is never closed is no value: then the blanks before it are an empty one, or else a second
equals sign begins a bare one. -/
def attributeValue? (t : Text) : Option WrittenValue :=
  let afterBlanks := trimLeft t
  let signs := afterBlanks.takeWhile (· = '=')
  let afterSigns := afterBlanks.drop signs.length
  let blanks := afterSigns.takeWhile isBlank
  let start := afterSigns.drop blanks.length
  if signs.isEmpty then none
  else match start with
    | c :: body =>
      if c = '"' || c = '\'' then
        match through c body with
        | some (inside, behind) => some ⟨inside, c, behind⟩
        | none =>
          if !blanks.isEmpty then some ⟨[], ' ', start⟩
          else if 1 < signs.length then some (bareValue ('=' :: start))
          else none
      else some (bareValue start)
    | [] => some ⟨[], '=', []⟩

/-- An attribute begins at `c`, which `before` precedes: only behind a blank, a slash or a quote. -/
def opensAttribute (before c : Char) : Bool :=
  (before = '"' || before = '\'' || before = '/' || isBlank before) &&
    !(isBlank c || c = '/' || c = '>')

/-- Read attributes, with their values as written, and return the text behind them. Each takes at
least one character, so that any text as long as the one that is read bounds their number. -/
def attributes : Text → Char → Text → List (Text × Text) × Text
  | [], _, t => ([], t)
  | _ :: bound, before, t =>
    match t with
    | [] => ([], [])
    | c :: rest =>
      if opensAttribute before c then
        let name := c :: rest.takeWhile fun d => !(isBlank d || d = '/' || d = '=' || d = '>')
        let afterName := t.drop name.length
        let value := (attributeValue? afterName).getD ⟨[], name.getLastD c, afterName⟩
        let (others, final) :=
          attributes bound (beforeNext value.last value.rest) (skipSeparators value.rest)
        ((lower name, value.text) :: others, final)
      else ([], t)

/-- Resolve the references in the values of attributes. -/
def resolveValues : List (Text × Text) → Except Malformed (List (Text × Text))
  | [] => .ok []
  | (name, value) :: others =>
    match Reference.resolveAll value with
    | .error e => .error (.longNumeral e)
    | .ok v => (resolveValues others).map ((name, v) :: ·)

/-- An element whose content is raw text. -/
def isRaw (name : Text) : Bool := name = "script".toList || name = "style".toList

/-- A start tag, read from its name on. -/
def readOpening (t : Text) : Except Malformed Reading :=
  let name := t.takeWhile isTagChar
  let afterName := t.drop name.length
  let (raw, rest) :=
    attributes t (beforeNext (name.getLastD '<') afterName) (skipSeparators afterName)
  match rest with
  | [] => .ok .incomplete
  | '>' :: behind =>
    (resolveValues raw).map fun values =>
      let tag := lower name
      .complete [.opening tag values false] behind (if isRaw tag then some tag else none)
  | '/' :: '>' :: behind =>
    (resolveValues raw).map fun values => .complete [.opening (lower name) values true] behind none
  | c :: _ =>
    if isLetter c || c = '=' || c = '/' then .ok .incomplete
    else
      (resolveValues raw).map fun _ =>
        .complete [.data ('<' :: t.take (t.length - rest.length))] rest none

/-- A character of the name in a well-formed end tag. -/
def isEndTagChar (c : Char) : Bool :=
  isLetter c || c.isDigit || c = '-' || c = '.' || c = ':' || c = '_'

/-- A well-formed end tag, read from behind its slash: its name and the text behind it. -/
def strictEnd? (t : Text) : Option (Text × Text) :=
  match trimLeft t with
  | c :: rest =>
    if isLetter c then
      let name := c :: rest.takeWhile isEndTagChar
      match trimLeft (rest.dropWhile isEndTagChar) with
      | '>' :: behind => some (lower name, behind)
      | _ => none
    else none
  | [] => none

/-- An end tag, read from behind its slash. In raw text a tag that does not end it is data;
elsewhere all up to the next bracket belongs to a tag that begins with a letter, and is a comment
otherwise. -/
def readClosing (raw : Option Text) (t : Text) : Reading :=
  match through '>' t with
  | none => .incomplete
  | some (inside, behind) =>
    let asData : Reading := .complete [.data ('<' :: '/' :: inside ++ ['>'])] behind raw
    match strictEnd? t, raw with
    | some (name, behind), none => .complete [.closing name] behind none
    | some (name, behind), some element =>
      if name = element then .complete [.closing name] behind none else asData
    | none, some _ => asData
    | none, none =>
      match t with
      | '>' :: _ => .complete [] behind none
      | c :: _ =>
        if isLetter c then .complete [.closing (lower (t.takeWhile isTagChar))] behind none
        else .complete [.comment inside] behind none
      | [] => .incomplete

/-- A text up to a closing piece, as one token. -/
def upTo (found : Option (Text × Text)) (token : Text → Token) : Reading :=
  match found with
  | some (inside, behind) => .complete [token inside] behind none
  | none => .incomplete

/-- A character of the keyword of a marked section. -/
def isKeywordChar (c : Char) : Bool :=
  isLetter c || c.isDigit || c = '-' || c = '_' || c = '.'

/-- Keywords of sections that two brackets end. -/
def doubleBracketed : List Text :=
  ["temp".toList, "cdata".toList, "ignore".toList, "include".toList, "rcdata".toList]

/-- Keywords of sections that one bracket ends. -/
def singleBracketed : List Text := ["if".toList, "else".toList, "endif".toList]

/-- A marked section, read from behind its opening bracket. -/
def readMarked (t : Text) : Except Malformed Reading :=
  match t with
  | [] => .ok .incomplete
  | c :: _ =>
    if !isLetter c then .error .rejected
    else
      let name := t.takeWhile isKeywordChar
      let keyword := name.map Char.toLower
      if (trimLeft (t.drop name.length)).isEmpty then .ok .incomplete
      else if doubleBracketed.contains keyword then
        .ok (upTo (seek (spaced? [']', ']', '>']) t) .marked)
      else if singleBracketed.contains keyword then
        .ok (upTo (seek (spaced? [']', '>']) t) .marked)
      else .error .rejected

/-- A construct that begins with a less-than sign and an exclamation mark, read from behind them. -/
def readDeclaration (t : Text) : Except Malformed Reading :=
  match t with
  | '-' :: '-' :: rest => .ok (upTo (seek commentEnd? rest) .comment)
  | '[' :: rest => readMarked rest
  | _ =>
    if (t.take 7).map Char.toLower = "doctype".toList then
      .ok (upTo (through '>' t) fun inside => .doctype (inside.drop 8))
    else .ok (upTo (through '>' t) .comment)

/-- A construct at a less-than sign, read from behind it. -/
def readMarkup (raw : Option Text) (t : Text) : Except Malformed Reading :=
  match t with
  | [] => .ok .incomplete
  | '/' :: rest => .ok (readClosing raw rest)
  | '!' :: rest => readDeclaration rest
  | '?' :: rest => .ok (upTo (through '>' rest) .instruction)
  | c :: _ => if isLetter c then readOpening t else .ok (.complete [.data ['<']] t raw)

/-- A move of the reader. -/
inductive Move where
  /-- Tokens were read and the reader goes on at the rest. -/
  | advance (tokens : List Token) (rest : Text) (raw : Option Text)
  /-- Tokens were read and the pass ends before the rest. -/
  | halt (tokens : List Token) (rest : Text)

/-- The text without a semicolon in front. -/
def dropSemicolon : Text → Text
  | ';' :: rest => rest
  | t => t

/-- The name of an entity reference, read from behind the ampersand. Another character must end it;
at the end of the text the last hyphen or point of the name does. -/
def entityName? (t : Text) : Option Text :=
  match t with
  | c :: rest =>
    if isLetter c then
      let isPart (d : Char) : Bool := isLetter d || d.isDigit || d = '-' || d = '.'
      let run := rest.takeWhile isPart
      match rest.dropWhile isPart, run.reverse.dropWhile fun d => d != '-' && d != '.' with
      | _ :: _, _ => some (c :: run)
      | [], _ :: front => some (c :: front.reverse)
      | [], [] => none
    else none
  | [] => none

/-- A numeric reference, read from behind its number sign: its digits, whether they are hexadecimal,
and the text behind them, which must not go on with a hexadecimal digit. -/
def numericReference? (t : Text) : Option (Bool × Text × Text) :=
  let found (hex : Bool) (digits rest : Text) : Option (Bool × Text × Text) :=
    match rest with
    | c :: _ =>
      if digits.isEmpty || isHexDigit c then none else some (hex, digits, dropSemicolon rest)
    | [] => none
  match t with
  | c :: rest =>
    if c = 'x' || c = 'X' then found true (rest.takeWhile isHexDigit) (rest.dropWhile isHexDigit)
    else found false (t.takeWhile Char.isDigit) (t.dropWhile Char.isDigit)
  | [] => none

/-- A reference at an ampersand, read from behind it. The characters of stray numbers are given. -/
def readReference (stray : Nat → Char) (final : Bool) (t : Text) : Except Malformed Move :=
  match t with
  | '#' :: rest =>
    match numericReference? rest with
    | some (true, digits, behind) =>
      .ok (.advance [.data [Reference.markupCharacter stray (numeralValue 16 digits)]] behind none)
    | some (false, digits, behind) =>
      match decimal digits with
      | .error e => .error (.longNumeral e)
      | .ok n => .ok (.advance [.data [Reference.markupCharacter stray n]] behind none)
    | none =>
      if rest.contains ';' then .ok (.halt [.data ['&', '#']] rest) else .ok (.halt [] ('&' :: t))
  | _ =>
    match entityName? t with
    | some name =>
      .ok (.advance [.data ((Reference.named? name).getD ('&' :: name))]
        (dropSemicolon (t.drop name.length)) none)
    | none =>
      match t with
      | [] => .ok (.halt [] ['&'])
      | c :: rest =>
        if isLetter c then .ok (.halt [] (if final && rest.isEmpty then t else '&' :: t))
        else .ok (.advance [.data ['&']] t none)

/-- Take an incomplete construct at a less-than sign as data: through the next greater-than sign, or
else up to the next less-than sign, or else the sign alone. -/
def asData (raw : Option Text) (t : Text) : Move :=
  match through '>' t with
  | some (inside, behind) => .advance [.data ('<' :: inside ++ ['>'])] behind raw
  | none =>
    if t.contains '<' then
      .advance [.data ('<' :: t.takeWhile (· != '<'))] (t.dropWhile (· != '<')) raw
    else .advance [.data ['<']] t raw

/-- Read at a less-than sign, from behind it. A lone one at the end of the text ends the pass. -/
def moveAtMarkup (final : Bool) (raw : Option Text) (t : Text) : Except Malformed Move :=
  match t with
  | [] => .ok (.halt [] ['<'])
  | _ =>
    (readMarkup raw t).map fun reading =>
      match reading with
      | .complete tokens rest raw => .advance tokens rest raw
      | .incomplete => if final then asData raw t else .halt [] ('<' :: t)

/-- The end tag of a raw element: what follows it. -/
def rawEnd? (name : Text) (t : Text) : Option Text :=
  match t with
  | '<' :: '/' :: rest =>
    match afterFolded? name (trimLeft rest) with
    | some behind =>
      match trimLeft behind with
      | '>' :: behind => some behind
      | _ => none
    | none => none
  | _ => none

/-- The character data in front of the next construct. Raw text reaches up to its end tag, and
without one it has no data. -/
def dataBefore (raw : Option Text) (t : Text) : Option Text :=
  match raw with
  | none => some (t.takeWhile fun c => c != '<' && c != '&')
  | some name => (seek (rawEnd? name) t).map (·.1)

/-- One move at the start of a text. -/
def move (stray : Nat → Char) (final : Bool) (raw : Option Text) (t : Text) :
    Except Malformed Move :=
  match dataBefore raw t with
  | none => .ok (.halt [] t)
  | some [] =>
    match t with
    | '<' :: rest => moveAtMarkup final raw rest
    | '&' :: rest => readReference stray final rest
    | _ => .ok (.halt [] t)
  | some chunk => .ok (.advance [.data chunk] (t.drop chunk.length) raw)

/-- Where a pass ended. -/
structure Pass where
  /-- The tokens of the pass, in order. -/
  tokens : List Token
  /-- The text that it did not read. -/
  rest : Text
  /-- The element whose raw text it ended in, if any. -/
  raw : Option Text

/-- Move until the pass ends. Every move takes at least one character, so the length of the text
bounds their number. -/
def pass (stray : Nat → Char) (final : Bool) : Nat → Option Text → Text → Except Malformed Pass
  | 0, raw, t => .ok ⟨[], t, raw⟩
  | fuel + 1, raw, t =>
    match move stray final raw t with
    | .error e => .error e
    | .ok (.halt tokens rest) => .ok ⟨tokens, rest, raw⟩
    | .ok (.advance tokens rest raw) =>
      (pass stray final fuel raw rest).map fun p => { p with tokens := tokens ++ p.tokens }

/-- The tokens of a markup text. What both passes leave is data, unless it is raw text. -/
def scan (stray : Nat → Char) (t : Text) : Except Malformed (List Token) :=
  match pass stray false (t.length + 1) none t with
  | .error e => .error e
  | .ok first =>
    match pass stray true (first.rest.length + 1) first.raw first.rest with
    | .error e => .error e
    | .ok second =>
      .ok (first.tokens ++ second.tokens ++
        if second.rest.isEmpty || second.raw.isSome then [] else [.data second.rest])

end Token

end PageMarkdown.Html
