import PageMarkdown.Files.Path
import PageMarkdown.Settings

/-!
# Command-line arguments

A command line names a command, `convert` or `fetch`, and gives it options and operands in any
order; a line that begins with an operand is a conversion. Long options may be cut short as long as
they stay unique, and take their value behind an equals sign or as the next argument. Two dashes end
the options, and arguments that look like negative numbers or hold a space are operands. All
operands stand in one row; what comes after it is not recognised.
-/

namespace PageMarkdown.Command

open Text Files Numeral

/-- The commands. -/
inductive CommandName where
  /-- Convert files. -/
  | convert
  /-- Fetch pages. -/
  | fetch
  deriving DecidableEq, Repr

/-- The name of a command. -/
def CommandName.toText : CommandName → Text
  | convert => "convert".toList
  | fetch => "fetch".toList

/-- The command of a name. -/
def CommandName.ofText? (t : Text) : Option CommandName :=
  if t = "convert".toList then some convert
  else if t = "fetch".toList then some fetch
  else none

/-- What an option sets. -/
inductive Setting where
  /-- Show how the command is used. -/
  | help
  /-- The directory to write to. -/
  | output
  /-- The title of the document. -/
  | title
  /-- The nesting depth that is walked. -/
  | maxDepth
  /-- How long a request may take. -/
  | timeout
  /-- Take the whole page. -/
  | noExtract
  /-- Write documents to standard output as well. -/
  | stdout
  /-- Tell everything that happens. -/
  | verbose
  deriving DecidableEq, Repr

namespace Setting

/-- The spellings of an option. -/
def spellings : Setting → List Text
  | help => ["-h".toList, "--help".toList]
  | output => ["--output".toList]
  | title => ["--title".toList]
  | maxDepth => ["--max-depth".toList]
  | timeout => ["--timeout".toList]
  | noExtract => ["--no-extract".toList]
  | stdout => ["--stdout".toList]
  | verbose => ["--verbose".toList]

/-- The option takes a value. -/
def takesValue : Setting → Bool
  | output | title | maxDepth | timeout => true
  | _ => false

/-- The name of an option in messages. -/
def shown (s : Setting) : Text := ['/'].intercalate s.spellings

end Setting

/-- The options of a command; without a command there is only help. -/
def settingsOf : Option CommandName → List Setting
  | none => [.help]
  | some .convert => [.help, .output, .title, .maxDepth, .verbose]
  | some .fetch => [.help, .output, .timeout, .noExtract, .maxDepth, .stdout, .verbose]

/-- What is wrong with a command line. -/
inductive Misuse where
  /-- An operand is missing. -/
  | missing (operand : Text)
  /-- There is no such command. -/
  | unknownCommand (name : Text)
  /-- Arguments that mean nothing. -/
  | unrecognized (arguments : List Text)
  /-- An option without its value. -/
  | noValue (setting : Setting)
  /-- A value for an option that takes none. -/
  | unwantedValue (setting : Setting) (value : Text)
  /-- A value that is no integer. -/
  | notAnInteger (setting : Setting) (value : Text)
  /-- A value that is no number. -/
  | notANumber (setting : Setting) (value : Text)
  /-- A shortened option that could be several. -/
  | ambiguous (argument : Text) (candidates : List Text)
  deriving DecidableEq, Repr

/-- Texts with a comma between them. -/
def commaSeparated (ts : List Text) : Text := [',', ' '].intercalate ts

/-- The wording of a misuse. -/
def Misuse.message : Misuse → Text
  | missing operand => "the following arguments are required: ".toList ++ operand
  | unknownCommand name =>
    "argument command: invalid choice: ".toList ++ quoted name ++
      " (choose from 'convert', 'fetch')".toList
  | unrecognized arguments => "unrecognized arguments: ".toList ++ [' '].intercalate arguments
  | noValue setting => "argument ".toList ++ setting.shown ++ ": expected one argument".toList
  | unwantedValue setting value =>
    "argument ".toList ++ setting.shown ++ ": ignored explicit argument ".toList ++ quoted value
  | notAnInteger setting value =>
    "argument ".toList ++ setting.shown ++ ": invalid int value: ".toList ++ quoted value
  | notANumber setting value =>
    "argument ".toList ++ setting.shown ++ ": invalid float value: ".toList ++ quoted value
  | ambiguous written candidates =>
    "ambiguous option: ".toList ++ written ++ " could match ".toList ++ commaSeparated candidates

/-- Why a command line is not carried out. -/
inductive Refusal where
  /-- Help was asked for. -/
  | help (command : Option CommandName)
  /-- The line is wrong; the command is named that found it. -/
  | misuse (command : Option CommandName) (what : Misuse)
  deriving DecidableEq, Repr

/-- The name of the program. -/
def programName : Text := "html-mdx".toList

/-- The line that tells a misuse. -/
def misuseLine (command : Option CommandName) (what : Misuse) : Text :=
  programName ++ (match command with
    | none => []
    | some c => ' ' :: c.toText) ++ ": error: ".toList ++ what.message

/-- How an argument is read before the options are applied. -/
inductive Word where
  /-- The two dashes that end the options. -/
  | separator
  /-- An operand or the value of an option. -/
  | plain
  /-- An option with the value written into the same argument, if any. -/
  | setting (s : Setting) (short : Bool) (value : Option Text)
  /-- Something like an option that no option is. -/
  | stranger
  deriving DecidableEq, Repr

/-- An argument that looks like a negative number. One line feed at the end does not count. -/
def isNegativeNumber (t : Text) : Bool :=
  match t with
  | '-' :: rest =>
    let body := if rest.getLast? = some '\n' then rest.dropLast else rest
    let places := body.dropWhile DecimalDigit.isDigit
    match places with
    | [] => !body.isEmpty
    | '.' :: digits => !digits.isEmpty && digits.all DecimalDigit.isDigit
    | _ => false
  | _ => false

/-- The option that is spelled so. -/
def spelled? (settings : List Setting) (t : Text) : Option Setting :=
  settings.find? fun s => s.spellings.contains t

/-- The options that an argument may mean, with their spellings and the value in it: those that a
shortened long spelling begins, or the one that a short spelling with something behind it names. -/
def candidates (settings : List Setting) (t : Text) : List (Setting × Text × Option Text) :=
  let all := settings.flatMap fun s => s.spellings.map fun spelling => (s, spelling)
  match t with
  | '-' :: '-' :: _ =>
    let (written, value) := cut '=' t
    (all.filter fun entry => written.isPrefixOf entry.2).map fun entry => (entry.1, entry.2, value)
  | _ =>
    (all.filter fun entry => entry.2 = t.take 2).map fun entry =>
      (entry.1, entry.2, some (t.drop 2))

/-- A spelling with one dash and one letter. -/
def isShort (spelling : Text) : Bool := spelling.length = 2

/-- Read one argument. -/
def readWord (settings : List Setting) (t : Text) : Except Misuse Word :=
  if t.head? != some '-' then .ok .plain
  else match spelled? settings t with
    | some s => .ok (.setting s (isShort t) none)
    | none =>
      if t.length = 1 then .ok .plain
      else
        let (written, value) := cut '=' t
        match value, spelled? settings written with
        | some v, some s => .ok (.setting s (isShort written) (some v))
        | _, _ =>
          match candidates settings t with
          | [(s, spelling, value)] => .ok (.setting s (isShort spelling) value)
          | [] => .ok (if isNegativeNumber t || t.contains ' ' then .plain else .stranger)
          | several => .error (.ambiguous t (several.map (·.2.1)))

/-- Read arguments in order. Everything behind two dashes is an operand. -/
def readWords (settings : List Setting) : List Text → Except Misuse (List (Text × Word))
  | [] => .ok []
  | t :: others =>
    if t = ['-', '-'] then .ok ((t, .separator) :: others.map fun other => (other, .plain))
    else match readWord settings t with
      | .error e => .error e
      | .ok word => (readWords settings others).map ((t, word) :: ·)

/-- Whether the row of operands has begun or ended. -/
inductive Row where
  /-- No operand has been read. -/
  | ahead
  /-- The last argument was an operand. -/
  | open
  /-- Something else has followed the operands. -/
  | closed
  deriving DecidableEq, Repr

/-- The values that the arguments of a command give. -/
structure Values where
  /-- The operands. -/
  operands : List Text := []
  /-- The directory to write to. -/
  output : Option Path := none
  /-- The title of the document. -/
  title : Option Text := none
  /-- The nesting depth that is walked. -/
  maxDepth : Option Int := none
  /-- How long a request may take. -/
  timeout : Option Binary64 := none
  /-- Take the whole page. -/
  noExtract : Bool := false
  /-- Write documents to standard output as well. -/
  stdout : Bool := false
  /-- Tell everything that happens. -/
  verbose : Bool := false
  /-- Arguments that mean nothing. -/
  extras : List Text := []
  deriving DecidableEq, Repr

/-- Take the value of an option. -/
def takeValue (v : Values) (s : Setting) (value : Text) : Except Misuse Values :=
  match s with
  | .output => .ok { v with output := some (Path.ofText value) }
  | .title => .ok { v with title := some value }
  | .maxDepth =>
    match integer? value with
    | some n => .ok { v with maxDepth := some n }
    | none => .error (.notAnInteger s value)
  | .timeout =>
    match Binary64.ofText? value with
    | some x => .ok { v with timeout := some x }
    | none => .error (.notANumber s value)
  | _ => .ok v

/-- Take an option without a value. -/
def takeFlag (v : Values) : Setting → Values
  | .noExtract => { v with noExtract := true }
  | .stdout => { v with stdout := true }
  | .verbose => { v with verbose := true }
  | _ => v

/-- The row of operands ends where something else comes. -/
def Row.afterOption : Row → Row
  | .ahead => .ahead
  | _ => .closed

/-- A value written into a flag: a short flag may be repeated by its letter, and nothing else. -/
def checkFlagValue (s : Setting) (short : Bool) : Option Text → Option Misuse
  | none => none
  | some value =>
    match short, value.dropWhile (· = 'h') with
    | true, [] => if value.isEmpty then some (.unwantedValue s value) else none
    | true, rest => some (.unwantedValue s rest)
    | false, _ => some (.unwantedValue s value)

/-- Take an option with the value that was found for it, if any. -/
def takeSetting (command : Option CommandName) (v : Values) (s : Setting) (short : Bool)
    (value : Option Text) : Except Refusal Values :=
  if s.takesValue then
    match value with
    | none => .error (.misuse command (.noValue s))
    | some given =>
      match takeValue v s given with
      | .ok v => .ok v
      | .error e => .error (.misuse command e)
  else match checkFlagValue s short value with
    | some e => .error (.misuse command e)
    | none => if s = .help then .error (.help command) else .ok (takeFlag v s)

/-- Apply the arguments of a command one after another. -/
def apply (command : Option CommandName) : Row → Values → List (Text × Word) →
    Except Refusal Values
  | _, v, [] => .ok v
  | row, v, (t, .stranger) :: others =>
    apply command row.afterOption { v with extras := v.extras ++ [t] } others
  | row, v, (t, .plain) :: others =>
    if row = .closed then apply command row { v with extras := v.extras ++ [t] } others
    else apply command .open { v with operands := v.operands ++ [t] } others
  | row, v, (t, .separator) :: others =>
    if row = .closed || (row = .ahead && others.isEmpty) then
      apply command row { v with extras := v.extras ++ [t] } others
    else apply command .open v others
  | row, v, (_, .setting s short none) :: (given, .plain) :: others =>
    if s.takesValue then
      (takeSetting command v s short (some given)).bind fun v =>
        apply command row.afterOption v others
    else
      (takeSetting command v s short none).bind fun v =>
        apply command row.afterOption v ((given, .plain) :: others)
  | row, v, (_, .setting s short value) :: others =>
    (takeSetting command v s short value).bind fun v => apply command row.afterOption v others

/-- A command with its values. -/
inductive Arguments where
  /-- Convert files. -/
  | convert (paths : List Text) (output : Option Path) (title : Option Text)
      (maxDepth : Option Int) (verbose : Bool)
  /-- Fetch pages. -/
  | fetch (urls : List Text) (output : Path) (timeout : Timeout) (noExtract : Bool)
      (maxDepth : Int) (stdout verbose : Bool)
  deriving DecidableEq, Repr

/-- The operand that a command needs. -/
def CommandName.operand : CommandName → Text
  | convert => "paths".toList
  | fetch => "urls".toList

/-- The command that values make. -/
def ofValues (v : Values) : CommandName → Arguments
  | .convert => .convert v.operands v.output v.title v.maxDepth v.verbose
  | .fetch =>
    .fetch v.operands (v.output.getD (Path.ofText "output".toList))
      ((v.timeout.map Timeout.real).getD defaultTimeout) v.noExtract (v.maxDepth.getD defaultDepth)
      v.stdout v.verbose

/-- Read the arguments of a command; `before` are arguments in front of it that mean nothing. -/
def parseCommand (before : List Text) (command : CommandName) (arguments : List Text) :
    Except Refusal Arguments :=
  match readWords (settingsOf (some command)) arguments with
  | .error e => .error (.misuse (some command) e)
  | .ok found =>
    match apply (some command) .ahead {} found with
    | .error e => .error e
    | .ok v =>
      if v.operands.isEmpty then .error (.misuse (some command) (.missing command.operand))
      else if !(before ++ v.extras).isEmpty then
        .error (.misuse none (.unrecognized (before ++ v.extras)))
      else .ok (ofValues v command)

/-- Find the command behind options, which mean nothing there, and read its arguments. -/
def parseFrom (before : List Text) : List Text → Except Refusal Arguments
  | [] => .error (.misuse none (.missing "command".toList))
  | t :: others =>
    if t = ['-', '-'] then
      if others.isEmpty then .error (.misuse none (.missing "command".toList))
      else .error (.misuse none (.unknownCommand t))
    else match readWord (settingsOf none) t with
      | .error e => .error (.misuse none e)
      | .ok (.setting s short value) =>
        match checkFlagValue s short value with
        | some e => .error (.misuse none e)
        | none => .error (.help none)
      | .ok .stranger => parseFrom (before ++ [t]) others
      | .ok _ =>
        match CommandName.ofText? t with
        | some command => parseCommand before command others
        | none => .error (.misuse none (.unknownCommand t))

/-- The line with the command that it leaves out: one that begins with an operand is a conversion.
-/
def withCommand : List Text → List Text
  | [] => []
  | t :: others =>
    if (CommandName.ofText? t).isSome || (t.head? = some '-' && t != ['-']) then t :: others
    else CommandName.convert.toText :: t :: others

/-- Read a command line. -/
def parse (arguments : List Text) : Except Refusal Arguments := parseFrom [] (withCommand arguments)

end PageMarkdown.Command
