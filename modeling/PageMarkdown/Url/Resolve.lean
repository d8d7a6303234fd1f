import PageMarkdown.Url.Parts

/-!
# Resolving references

A reference found on a page is read relative to the URL of the page. A reference with a scheme of
its own stays as it is; of any other the missing parts come from the base, and its path is merged
with the path of the base, dot segments being resolved.
-/

namespace PageMarkdown.Url

open Text

/-- A path without the parameters of its last segment, and the parameters. -/
def splitParameters (path : Text) : Text × Text :=
  match cutLast '/' path with
  | (none, last) =>
    let (segment, parameters) := cut ';' last
    (segment, parameters.getD [])
  | (some front, last) =>
    let (segment, parameters) := cut ';' last
    (front ++ '/' :: segment, parameters.getD [])

/-- Take a URL apart, parameters included: the parts with a path free of parameters, and these. -/
def splitWithParameters (defaultScheme url : Text) : Except Defect (Parts × Text) :=
  (split defaultScheme url).map fun p =>
    if parameterSchemes.contains p.scheme && p.path.contains ';' then
      let (path, parameters) := splitParameters p.path
      ({ p with path := path }, parameters)
    else (p, [])

/-- Put parts and parameters together. -/
def joinWithParameters (p : Parts) (parameters : Text) : Text :=
  Parts.toText (if parameters.isEmpty then p else { p with path := p.path ++ ';' :: parameters })

/-- A dot segment. -/
def isDots (segment : Text) : Bool := segment = ['.'] || segment = ['.', '.']

/-- Resolve dot segments against the segments before them, which are given in reverse. A parent of
the root is the root. -/
def resolveDots (before : List Text) : List Text → List Text
  | [] => before.reverse
  | segment :: rest =>
    if segment = ['.', '.'] then resolveDots before.tail rest
    else if segment = ['.'] then resolveDots before rest
    else resolveDots (segment :: before) rest

/-- The segments without the empty ones between the first and the last. -/
def dropEmptyInner (segments : List Text) : List Text :=
  match segments with
  | [] => []
  | first :: rest =>
    match rest.getLast? with
    | none => [first]
    | some last => first :: (rest.dropLast.filter fun s => !s.isEmpty) ++ [last]

/-- The segments of a reference's path behind those of the base's directory. -/
def mergeSegments (base path : Text) : List Text :=
  if path.head? = some '/' then fields '/' path
  else
    let directory := match (fields '/' base).getLast? with
      | some [] | none => fields '/' base
      | some _ => (fields '/' base).dropLast
    dropEmptyInner (directory ++ fields '/' path)

/-- The path that a reference's path means in the directory of a base path. -/
def mergePaths (base path : Text) : Text :=
  let segments := mergeSegments base path
  let resolved := resolveDots [] segments ++ (if segments.getLast?.any isDots then [[]] else [])
  let merged := ['/'].intercalate resolved
  if merged.isEmpty then ['/'] else merged

/-- The URL that a reference means on a page. -/
def resolve (base reference : Text) : Except Defect Text :=
  if base.isEmpty then .ok reference
  else if reference.isEmpty then .ok base
  else
    match splitWithParameters [] base with
    | .error e => .error e
    | .ok (b, baseParameters) =>
      match splitWithParameters b.scheme reference with
      | .error e => .error e
      | .ok (r, parameters) =>
        let hasAuthority := authoritySchemes.contains r.scheme
        if r.scheme != b.scheme || !relativeSchemes.contains r.scheme then .ok reference
        else if hasAuthority && !r.authority.isEmpty then .ok (joinWithParameters r parameters)
        else
          let r := if hasAuthority then { r with authority := b.authority } else r
          if r.path.isEmpty && parameters.isEmpty then
            let query := if r.query.isEmpty then b.query else r.query
            .ok (joinWithParameters { r with path := b.path, query := query } baseParameters)
          else .ok (joinWithParameters { r with path := mergePaths b.path r.path } parameters)

end PageMarkdown.Url
