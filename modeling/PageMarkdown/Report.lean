import PageMarkdown.Fault

/-!
# Reports

A run tells what happens in it as a list of events and ends with a value or a fault. A report holds
both: running one thing after another appends their events, and a fault keeps the events before it.
-/

namespace PageMarkdown

open Text

/-- How much an event matters, in increasing order. -/
inductive Severity where
  /-- Of interest when something is examined. -/
  | debug
  /-- Progress. -/
  | info
  /-- Something was not as it should be. -/
  | warning
  /-- Something was not done. -/
  | error
  deriving DecidableEq, Repr

/-- The place of a severity in their order. -/
def Severity.rank : Severity → Nat
  | debug => 0
  | info => 1
  | warning => 2
  | error => 3

/-- The word that a severity is told by. -/
def Severity.label : Severity → Text
  | debug => "DEBUG".toList
  | info => "INFO".toList
  | warning => "WARNING".toList
  | error => "ERROR".toList

/-- Something that happened in a run. -/
inductive Event where
  /-- A depth above the ceiling was asked for. -/
  | depthClamped (requested ceiling : Int)
  /-- The depth set from outside is no positive integer. -/
  | depthUnreadable (setting : Text)
  /-- No parser has this name. -/
  | parserMissing (name : Text)
  /-- The parser refused the markup. -/
  | markupRejected
  /-- An element was deeper than the limit. -/
  | truncated (limit : Int) (element : Text)
  /-- The walk ran out of stack. -/
  | stackExhausted
  /-- A table without content was dropped. -/
  | tableDropped (rows : Nat)
  /-- Images were collected: how many, and how many different ones are known now. -/
  | imagesCollected (found known : Nat)
  /-- A term has no link that can be used. -/
  | termSkipped (name : Text)
  /-- No article was found on the page. -/
  | noArticle (reason : Text)
  /-- The article was thin, and a wider part of the page is used. -/
  | widened
  /-- A page is being fetched. -/
  | fetching (url : Text)
  /-- A page could not be fetched. -/
  | fetchFailed (url reason : Text)
  /-- A response was larger than allowed. -/
  | tooLarge (url : Text) (limit : Int)
  /-- A page came as Markdown. -/
  | servedMarkdown (url : Text)
  /-- A file could not be written. -/
  | writeFailed (path reason : Text)
  /-- A file was written. -/
  | saved (path : Text)
  /-- A file could not be read. -/
  | readFailed (path reason : Text)
  /-- A file was converted: the lengths of input and output. -/
  | converted (path : Text) (before after : Nat)
  /-- All pages have been tried. -/
  | finished (done total : Nat)
  /-- The time that a page took. -/
  | timing (url : Text)
  deriving DecidableEq, Repr

namespace Event

/-- The severity of an event. -/
def severity : Event → Severity
  | tableDropped _ | imagesCollected _ _ | termSkipped _ | widened | converted _ _ _ | timing _ =>
    .debug
  | fetching _ | servedMarkdown _ | saved _ | finished _ _ => .info
  | writeFailed _ _ | readFailed _ _ => .error
  | _ => .warning

/-- The wording of an event; `elapsed` stands where a duration is told. -/
def message (elapsed : Text) : Event → Text
  | depthClamped requested ceiling =>
    "Maximum depth ".toList ++ ofInt requested ++
      " exceeds the recursion-safe limit; using ".toList ++ ofInt ceiling
  | depthUnreadable setting =>
    "HTML_MDX_MAX_DEPTH is set to ".toList ++ quoted setting ++
      " which is not a positive integer; using 100".toList
  | parserMissing name => "HTML parser ".toList ++ quoted name ++ " is not available".toList
  | markupRejected => "HTML parser rejected markup".toList
  | truncated limit element =>
    "Markup nested deeper than ".toList ++ ofInt limit ++ " elements; dropping <".toList ++
      element ++ "> and its descendants".toList
  | stackExhausted =>
    "Markup nested too deeply to convert; falling back to plain text".toList
  | tableDropped rows =>
    "Dropping table with ".toList ++ ofNat rows ++ " row(s) and no content".toList
  | imagesCollected found known =>
    "Collected ".toList ++ ofNat found ++ " image reference(s), ".toList ++ ofNat known ++
      " unique".toList
  | termSkipped name => "Skipping term ".toList ++ quoted name ++ " without a usable link".toList
  | noArticle reason => "Readability could not parse the page: ".toList ++ reason
  | widened => "Readability summary looked thin; using a broader scope".toList
  | fetching url => "Fetching ".toList ++ url
  | fetchFailed url reason => "Failed to fetch ".toList ++ url ++ ": ".toList ++ reason
  | tooLarge url limit =>
    "Skipping ".toList ++ url ++ ": response larger than ".toList ++ ofInt limit ++ " bytes".toList
  | servedMarkdown url => url ++ " served Markdown directly".toList
  | writeFailed path reason => "Failed to write ".toList ++ path ++ ": ".toList ++ reason
  | saved path => "Saved Markdown to ".toList ++ path
  | readFailed path reason => "Could not read ".toList ++ path ++ ": ".toList ++ reason
  | converted path before after =>
    "Converted ".toList ++ path ++ " in ".toList ++ elapsed ++ "s (".toList ++ ofNat before ++
      " -> ".toList ++ ofNat after ++ " chars)".toList
  | finished done total =>
    "Finished in ".toList ++ elapsed ++ "s (".toList ++ ofNat done ++ ['/'] ++ ofNat total ++
      " succeeded, ".toList ++ ofNat (total - done) ++ " failed)".toList
  | timing url => "Timing for ".toList ++ url ++ " -> ".toList ++ elapsed ++ ['s']

end Event

/-- What a run told, and how it ended. -/
structure Report (α : Type) where
  /-- The events, in order. -/
  events : List Event
  /-- The value, or the fault that ended the run. -/
  outcome : Except Fault α

namespace Report

/-- A run that tells nothing and ends with a value. -/
def ok {α : Type} (a : α) : Report α := ⟨[], .ok a⟩

/-- A run that ends with a fault. -/
def fault {α : Type} (e : Fault) : Report α := ⟨[], .error e⟩

/-- A run that tells one event. -/
def tell (e : Event) : Report Unit := ⟨[e], .ok ()⟩

/-- Run one thing after another. -/
def andThen {α β : Type} (r : Report α) (f : α → Report β) : Report β :=
  match r.outcome with
  | .error e => ⟨r.events, .error e⟩
  | .ok a => ⟨r.events ++ (f a).events, (f a).outcome⟩

instance : Monad Report where
  pure := ok
  bind := andThen

/-- A run that tells nothing and ends as given. -/
def ofExcept {α ε : Type} (toFault : ε → Fault) : Except ε α → Report α
  | .ok a => ok a
  | .error e => fault (toFault e)

/-- Do something for each item on a state, until a fault. -/
def each {σ α : Type} (step : α → σ → σ × Report Unit) : List α → σ → σ × Report Unit
  | [], s => (s, ok ())
  | a :: others, s =>
    let (s, r) := step a s
    match r.outcome with
    | .error e => (s, ⟨r.events, .error e⟩)
    | .ok () =>
      let (s, rest) := each step others s
      (s, ⟨r.events ++ rest.events, rest.outcome⟩)

/-- Go on with a report, whatever the state has become. -/
def thenOn {σ α β : Type} (first : σ × Report α) (next : α → σ → σ × Report β) : σ × Report β :=
  match first.2.outcome with
  | .error e => (first.1, ⟨first.2.events, .error e⟩)
  | .ok a =>
    let (s, rest) := next a first.1
    (s, ⟨first.2.events ++ rest.events, rest.outcome⟩)

end Report

end PageMarkdown
