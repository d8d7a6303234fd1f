import PageMarkdown.Text

/-!
# Slugs

A slug is a name made of lower-case ASCII letters, digits and single hyphens between them.
Characters beyond ASCII vanish, and every other run of characters becomes one hyphen.
-/

namespace PageMarkdown.Text

/-- A character of a slug other than the hyphen. -/
def isSlugChar (c : Char) : Bool := ('a' ≤ c && c ≤ 'z') || c.isDigit

/-- Join runs of slug characters by hyphens; `pending` says that characters have been left out since
the last one, and `begun` that there was one. -/
def slugFrom (begun pending : Bool) : Text → Text
  | [] => []
  | c :: t =>
    if isSlugChar c then
      if begun && pending then '-' :: c :: slugFrom true false t else c :: slugFrom true false t
    else slugFrom begun true t

/-- The slug of a text, or a given one where nothing is left. -/
def slug (fallback t : Text) : Text :=
  match slugFrom false false ((t.filter fun c => c.toNat < 0x80).map Char.toLower) with
  | [] => fallback
  | found => found

end PageMarkdown.Text
