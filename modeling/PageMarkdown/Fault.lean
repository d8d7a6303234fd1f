import PageMarkdown.Numeral.Integer
import PageMarkdown.Text.Quoted
import PageMarkdown.Url.Host

/-!
# Faults

What ends a run without a result. Most input never does: the causes are markup with an unknown
marked section, a decimal reference with too many digits, a URL whose authority is not allowed,
files that cannot be made or opened, text that no encoding has, and parts outside of the program
that fail.
-/

namespace PageMarkdown

open Text

/-- Why a file or directory cannot be used. -/
inductive FileProblem where
  /-- Nothing has this name. -/
  | notFound
  /-- Something else has this name. -/
  | alreadyExists
  /-- A file stands where a directory is needed. -/
  | notDirectory
  /-- A directory stands where a file is needed. -/
  | isDirectory
  /-- A name, or the whole path, has more octets than it may have. -/
  | nameTooLong
  deriving DecidableEq, Repr

namespace FileProblem

/-- The number that the system gives a problem. -/
def number : FileProblem → Nat
  | notFound => 2
  | alreadyExists => 17
  | notDirectory => 20
  | isDirectory => 21
  | nameTooLong => 36

/-- The wording of a problem. -/
def wording : FileProblem → String
  | notFound => "No such file or directory"
  | alreadyExists => "File exists"
  | notDirectory => "Not a directory"
  | isDirectory => "Is a directory"
  | nameTooLong => "File name too long"

end FileProblem

/-- How a part outside of the program fails. -/
inductive Failure where
  /-- In the way that it announces, with a reason. -/
  | announced (reason : Text)
  /-- In any other way, with a message. -/
  | other (message : Text)
  deriving DecidableEq, Repr

/-- What ends a run without a result. -/
inductive Fault where
  /-- Markup that a tree builder refuses, such as markup with an unknown marked section. -/
  | rejectedMarkup
  /-- A decimal numeral with too many digits. -/
  | longNumeral (n : Numeral.TooLong)
  /-- A URL whose authority is not allowed. -/
  | url (defect : Url.Defect)
  /-- A file problem at a path. -/
  | file (problem : FileProblem) (path : Text)
  /-- A path with a null character. -/
  | nullInPath
  /-- A character that an encoding lacks. -/
  | unencodable (c : Char)
  /-- Octets of standard input that are no text. -/
  | undecodable
  /-- A part outside of the program that failed in a way that it does not announce. -/
  | foreign (message : Text)
  /-- A page that could not be fetched or written. -/
  | notFetched (url : Text)
  deriving DecidableEq, Repr

/-- The wording of a fault. -/
def Fault.message : Fault → Text
  | rejectedMarkup => []
  | longNumeral n =>
    "Exceeds the limit (".toList ++ ofNat Numeral.digitLimit ++
      " digits) for integer string conversion: value has ".toList ++ ofNat n.digits ++
      " digits; use sys.set_int_max_str_digits() to increase the limit".toList
  | url defect => defect.message
  | file problem path =>
    "[Errno ".toList ++ ofNat problem.number ++ "] ".toList ++ problem.wording.toList ++
      ": ".toList ++ quoted path
  | nullInPath => "embedded null byte".toList
  | unencodable c => "can't encode character ".toList ++ quoted [c]
  | undecodable => "can't decode standard input".toList
  | foreign message => message
  | notFetched page => "Failed to fetch ".toList ++ page

end PageMarkdown
