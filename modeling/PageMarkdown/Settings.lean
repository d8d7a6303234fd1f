import PageMarkdown.Environment
import PageMarkdown.Numeral.Binary64

/-!
# Settings

Settings for converting and for fetching. The nesting depth that a conversion walks is bounded by
what the stack can hold: a setting above that ceiling is lowered to it with a warning, and one below
1 is raised to 1.
-/

namespace PageMarkdown

open Text

/-- A depth brought into the range from 1 to what the stack has room for. -/
def Environment.clampDepth (env : Environment) (depth : Int) : Report Int :=
  if env.safeDepth < depth then do
    Report.tell (.depthClamped depth env.safeDepth)
    return env.safeDepth
  else return max 1 depth

/-- The depth when none is asked for. -/
def defaultDepth : Int := 100

/-- Settings of a conversion. -/
structure ConvertSettings where
  /-- The name of the parser. -/
  parser : Text
  /-- The nesting depth that is walked. -/
  maxDepth : Int
  deriving DecidableEq, Repr

namespace ConvertSettings

/-- Settings with the depth brought into range. -/
def make (env : Environment) (parser : Text) (depth : Int) : Report ConvertSettings := do
  let depth ← env.clampDepth depth
  return ⟨parser, depth⟩

/-- The settings that hold when nothing is asked for. -/
def standard (env : Environment) : Report ConvertSettings := make env defaultParser defaultDepth

/-- The settings with the depth set from outside, if it is a positive integer. -/
def fromEnvironment (env : Environment) : Report ConvertSettings :=
  match env.depthSetting with
  | none | some [] => standard env
  | some setting =>
    let depth := (Numeral.integer? setting).getD 0
    if depth < 1 then do
      Report.tell (.depthUnreadable setting)
      standard env
    else make env defaultParser depth

/-- The given settings, or else the default ones. -/
def orDefault (env : Environment) : Option ConvertSettings → Report ConvertSettings
  | some settings => return settings
  | none => standard env

end ConvertSettings

/-- How long a request may take, in seconds. -/
inductive Timeout where
  /-- A whole number of seconds. -/
  | whole (seconds : Int)
  /-- A number of seconds in binary floating point. -/
  | real (seconds : Numeral.Binary64)
  deriving DecidableEq, Repr

/-- The text of a timeout. -/
def Timeout.toText : Timeout → Text
  | whole seconds => ofInt seconds
  | real seconds => seconds.toText

/-- Half a minute. -/
def defaultTimeout : Timeout := .real (.ofDecimal false 30 0)

/-- Settings of a fetch. -/
structure FetchSettings where
  /-- How long a request may take. -/
  timeout : Timeout := defaultTimeout
  /-- The name that requests give. -/
  userAgent : Text := "html-mdx/0.1".toList
  /-- Look for the article of a page, and do not take all of it. -/
  extractArticle : Bool := true
  /-- The largest response that is used, in octets. -/
  maxOctets : Int := 5000000
  /-- The nesting depth that is walked. -/
  maxDepth : Int := defaultDepth

/-- Fetch settings with the depth brought into range. -/
def FetchSettings.clamped (env : Environment) (s : FetchSettings) : Report FetchSettings := do
  let depth ← env.clampDepth s.maxDepth
  return { s with maxDepth := depth }

end PageMarkdown
