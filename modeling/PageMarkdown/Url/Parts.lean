import PageMarkdown.Url.Host

/-!
# The parts of a URL

A URL is taken apart into scheme, authority, path, query and fragment, and put together again.
Leading blanks and controls and all line breaks and tabs are dropped first. Taking apart fails only
for an authority that is not allowed; putting together leaves out an empty query or fragment.
-/

namespace PageMarkdown.Url

open Text

/-- The parts of a URL; an absent part is empty. -/
structure Parts where
  /-- The scheme in lower case. -/
  scheme : Text
  /-- What stands between two slashes and the path. -/
  authority : Text
  /-- The path, parameters included. -/
  path : Text
  /-- What follows the first question mark. -/
  query : Text
  /-- What follows the first number sign. -/
  fragment : Text
  deriving DecidableEq, Repr

/-- A character of a scheme behind its first letter. -/
def isSchemeChar (c : Char) : Bool :=
  isLetter c || c.isDigit || c = '+' || c = '-' || c = '.'

/-- The scheme in front of a URL, as written, and what follows its colon. -/
def scheme? (url : Text) : Option (Text × Text) :=
  match cut ':' url with
  | (c :: name, some rest) =>
    if isLetter c && name.all isSchemeChar then some (c :: name, rest) else none
  | _ => none

/-- The URL without leading blanks and controls, and without tabs and line breaks. -/
def tidy (url : Text) : Text :=
  (url.dropWhile fun c => c.toNat ≤ 0x20).filter fun c => c != '\t' && c != '\r' && c != '\n'

/-- A character that ends the authority. -/
def endsAuthority (c : Char) : Bool := c = '/' || c = '?' || c = '#'

/-- The authority at the start, if two slashes announce it, and the rest. -/
def authority? : Text → Option (Text × Text)
  | '/' :: '/' :: rest => some (rest.span fun c => !endsAuthority c)
  | _ => none

/-- Take a URL apart. One without a scheme gets the given one. -/
def split (defaultScheme url : Text) : Except Defect Parts :=
  let tidied := tidy url
  let (scheme, rest) := match scheme? tidied with
    | some (name, rest) => (name.map Char.toLower, rest)
    | none => (defaultScheme, tidied)
  let (authority, rest) := (authority? rest).getD ([], rest)
  let (rest, fragment) := cut '#' rest
  let (path, query) := cut '?' rest
  match checkBrackets authority with
  | .error e => .error e
  | .ok () =>
    match checkDisguise authority with
    | .error e => .error e
    | .ok () => .ok ⟨scheme, authority, path, query.getD [], fragment.getD []⟩

private def schemes (names : List String) : List Text := names.map String.toList

/-- Schemes whose references may be relative; no scheme is one of them. -/
def relativeSchemes : List Text :=
  schemes ["", "ftp", "http", "gopher", "nntp", "imap", "wais", "file", "https", "shttp", "mms",
    "prospero", "rtsp", "rtspu", "sftp", "svn", "svn+ssh", "ws", "wss"]

/-- Schemes with an authority; no scheme is one of them. -/
def authoritySchemes : List Text :=
  schemes ["", "ftp", "http", "gopher", "nntp", "telnet", "imap", "wais", "file", "mms", "https",
    "shttp", "snews", "prospero", "rtsp", "rtspu", "rsync", "svn", "svn+ssh", "sftp", "nfs", "git",
    "git+ssh", "ws", "wss"]

/-- Schemes whose last path segment may have parameters; no scheme is one of them. -/
def parameterSchemes : List Text :=
  schemes ["", "ftp", "hdl", "prospero", "http", "imap", "https", "shttp", "rtsp", "rtspu", "sip",
    "sips", "mms", "sftp", "tel"]

/-- Put the parts of a URL together. -/
def Parts.toText (p : Parts) : Text :=
  let path :=
    if !p.authority.isEmpty ||
        (!p.scheme.isEmpty && authoritySchemes.contains p.scheme &&
          p.path.take 2 != ['/', '/']) then
      '/' :: '/' :: p.authority ++
        (if p.path.isEmpty || p.path.head? = some '/' then p.path else '/' :: p.path)
    else p.path
  (if p.scheme.isEmpty then [] else p.scheme ++ [':']) ++ path ++
    (if p.query.isEmpty then [] else '?' :: p.query) ++
    (if p.fragment.isEmpty then [] else '#' :: p.fragment)

end PageMarkdown.Url
