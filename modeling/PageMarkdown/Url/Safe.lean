import PageMarkdown.Text.Blank
import PageMarkdown.Url.Parts

/-!
# Safe URLs

A URL is written into Markdown only after it has been made safe: spaces are escaped, characters that
have no place in a URL are dropped, and a scheme must be one of a fixed list. Where nothing safe is
left the result is empty.
-/

namespace PageMarkdown.Url

open Text

/-- A character that may stay in a URL. Everything beyond ASCII may. -/
def isAllowed (c : Char) : Bool :=
  isLetter c || c.isDigit || "-~+_.?#=!&;,/:%@$|*'()[]".toList.contains c || 0x80 ≤ c.toNat

/-- The schemes that a URL may have. -/
def safeSchemes : List Text :=
  ["http", "https", "ftp", "ftps", "mailto", "news", "irc", "gopher", "nntp", "feed", "telnet",
    "mms", "rtsp", "sms", "svn", "tel", "fax", "xmpp", "webcal", "urn"].map String.toList

/-- A character that a reference within the same site or page begins with. -/
def isLocalMark (c : Char) : Bool := c = '/' || c = '#' || c = '?'

/-- The URL without the characters that it may not have. -/
def clean (raw : Text) : Text := (replace ' ' ['%', '2', '0'] (trim raw)).filter isAllowed

/-- The URL as it may be embedded, or nothing. -/
def sanitize (raw : Text) : Text :=
  match clean raw with
  | [] => []
  | c :: rest =>
    if isLocalMark c then c :: rest
    else match split [] (c :: rest) with
      | .error _ => []
      | .ok p => if p.scheme.isEmpty || safeSchemes.contains p.scheme then c :: rest else []

end PageMarkdown.Url
