import PageMarkdown.Proofs.CleanArticle
import PageMarkdown.Proofs.Url.Resolve

/-!
# Links made absolute

When the references of a page are resolved against its URL, every image and every
link that refers to something elsewhere comes to refer to it by a URL with a
scheme. Nothing else changes: not the shape of the tree, not its strings, and of the
attributes none but the source of such an image and the target of such a link.
-/

namespace PageMarkdown.Page

open Text Html

/-! ## What is resolved -/

/-- An element refers to something elsewhere: the key of the attribute that does, and the reference
in it. -/
inductive Refers (name : Text) (attributes : Attributes) : String → Text → Prop where
  /-- An image with a source that is not embedded. -/
  | source (hname : name = "img".toList) (hfilled : trim (attributes.text "src") ≠ [])
      (hembedded : ¬ "data:".toList <+: trim (attributes.text "src")) :
      Refers name attributes "src" (trim (attributes.text "src"))
  /-- A link with a target that is not on the page itself. -/
  | target (hname : name = "a".toList) (hfilled : trim (attributes.text "href") ≠ [])
      (hlocal : ¬ ['#'] <+: trim (attributes.text "href")) :
      Refers name attributes "href" (trim (attributes.text "href"))

/-- What becomes of the attributes of an element when its references are resolved. -/
structure Redirects (base name : Text) (before after : Attributes) : Prop where
  /-- A reference becomes the URL that it means, which has a scheme, in its place between the other
  attributes. -/
  resolved : ∀ key reference, Refers name before key reference →
    ∃ front value behind url scheme, before = front ++ (key.toList, value) :: behind ∧
      (∀ entry ∈ front, entry.1 ≠ key.toList) ∧
      after = front ++ (key.toList, .single url) :: behind ∧
      Url.resolve base reference = .ok url ∧ Url.HasScheme (Url.tidy url) scheme
  /-- Without a reference nothing changes. -/
  kept : (∀ key reference, ¬ Refers name before key reference) → after = before

/-- The trees have the same shape, the same strings and elements of the same names, with attributes
that are related. -/
inductive Corresponds (related : Text → Attributes → Attributes → Prop) :
    List Node → List Node → Prop where
  /-- No nodes. -/
  | nil : Corresponds related [] []
  /-- The same string, and nodes behind it. -/
  | text (kind : StringKind) (content : Text) {others others' : List Node}
      (hothers : Corresponds related others others') :
      Corresponds related (.text kind content :: others) (.text kind content :: others')
  /-- An element of the same name, and nodes behind it. -/
  | element (name : Text) {attributes attributes' : Attributes}
      {kids kids' others others' : List Node}
      (hattributes : related name attributes attributes') (hkids : Corresponds related kids kids')
      (hothers : Corresponds related others others') :
      Corresponds related (.element name attributes kids :: others)
        (.element name attributes' kids' :: others')

/-! ## Attributes -/

/-- Setting an attribute that is present changes it in its place. -/
theorem exists_set_eq {attributes : Attributes} {key : Text} {value : AttributeValue}
    (h : attributes.lookup key = some value) (new : AttributeValue) :
    ∃ front behind, attributes = front ++ (key, value) :: behind ∧
      (∀ entry ∈ front, entry.1 ≠ key) ∧
      attributes.set key new = front ++ (key, new) :: behind := by
  induction attributes with
  | nil => cases h
  | cons entry others ih =>
    obtain ⟨k, v⟩ := entry
    rw [List.lookup_cons] at h
    rw [Attributes.set]
    by_cases hk : k = key
    · subst hk
      rw [beq_self_eq_true] at h
      obtain rfl := Option.some.inj h
      exact ⟨[], others, rfl, by simp, by rw [if_pos rfl]; rfl⟩
    · rw [beq_false_of_ne (Ne.symm hk)] at h
      obtain ⟨front, behind, rfl, hfront, hset⟩ := ih h
      refine ⟨(k, v) :: front, behind, rfl, List.forall_mem_cons.mpr ⟨hk, hfront⟩, ?_⟩
      rw [if_neg hk, hset]
      rfl

/-- An attribute with a text is present. -/
theorem exists_lookup_of_text {attributes : Attributes} {key : String}
    (h : trim (attributes.text key) ≠ []) : ∃ value, attributes.lookup key.toList = some value := by
  cases hlookup : attributes.lookup key.toList with
  | some value => exact ⟨value, rfl⟩
  | none =>
    rw [Attributes.text, hlookup] at h
    exact absurd rfl h

/-- A reference that is resolved against a hierarchical URL has a scheme then. -/
theorem exists_scheme_of_resolve {base reference url scheme : Text}
    (hbase : Url.HasScheme (Url.tidy base) scheme)
    (hrelative : scheme.map Char.toLower ∈ Url.relativeSchemes) (hreference : reference ≠ [])
    (h : Url.resolve base reference = .ok url) :
    ∃ name, Url.HasScheme (Url.tidy url) name := by
  rcases Url.resolve_hasScheme hbase hrelative hreference h with ⟨rfl, name, hname, -⟩ | hname
  · exact ⟨name, hname⟩
  · exact ⟨_, hname⟩

/-- What is found when the references of an element are resolved is what they are redirected to. -/
theorem resolved_of_resolveIn {base scheme skipped : Text} {key : String}
    {attributes found : Attributes} (hbase : Url.HasScheme (Url.tidy base) scheme)
    (hrelative : scheme.map Char.toLower ∈ Url.relativeSchemes)
    (hfilled : trim (attributes.text key) ≠ []) (hwanted : ¬ skipped <+: trim (attributes.text key))
    (h : resolveIn base key skipped attributes = .ok found) :
    ∃ front value behind url name, attributes = front ++ (key.toList, value) :: behind ∧
      (∀ entry ∈ front, entry.1 ≠ key.toList) ∧
      found = front ++ (key.toList, .single url) :: behind ∧
      Url.resolve base (trim (attributes.text key)) = .ok url ∧
      Url.HasScheme (Url.tidy url) name := by
  rcases resolveIn_eq_ok_iff.mp h with ⟨hskip, -⟩ | ⟨-, url, hurl, rfl⟩
  · exact absurd hskip (not_or.mpr ⟨hfilled, hwanted⟩)
  · obtain ⟨value, hvalue⟩ := exists_lookup_of_text hfilled
    obtain ⟨front, behind, hbefore, hfront, hset⟩ := exists_set_eq hvalue (.single url)
    obtain ⟨name, hname⟩ := exists_scheme_of_resolve hbase hrelative hfilled hurl
    exact ⟨front, value, behind, url, name, hbefore, hfront, hset, hurl, hname⟩

/-- Nothing is found but the attributes themselves where there is nothing to resolve. -/
theorem eq_of_resolveIn {base skipped : Text} {key : String} {attributes found : Attributes}
    (h : resolveIn base key skipped attributes = .ok found)
    (hskip : ¬(trim (attributes.text key) ≠ [] ∧ ¬ skipped <+: trim (attributes.text key))) :
    found = attributes := by
  rcases resolveIn_eq_ok_iff.mp h with ⟨-, rfl⟩ | ⟨hwanted, -⟩
  · rfl
  · exact absurd hwanted hskip

/-- The references of an element can be resolved. -/
def Resolvable (base : Text) : Node → Prop
  | .text _ _ => True
  | .element name attributes _ =>
    (name = "img".toList → ∃ found, resolveIn base "src" "data:".toList attributes = .ok found) ∧
      (name = "a".toList → ∃ found, resolveIn base "href" ['#'] attributes = .ok found)

/-- The references of an element that can be resolved are redirected. -/
theorem redirects_resolvedAttributes {base scheme name : Text} {attributes : Attributes}
    {kids : List Node} (hbase : Url.HasScheme (Url.tidy base) scheme)
    (hrelative : scheme.map Char.toLower ∈ Url.relativeSchemes)
    (h : Resolvable base (.element name attributes kids)) :
    Redirects base name attributes (resolvedAttributes base name attributes) := by
  obtain ⟨hsource, htarget⟩ := h
  by_cases himage : name = "img".toList
  · subst himage
    obtain ⟨found, hfound⟩ := hsource rfl
    have heq : resolvedAttributes base "img".toList attributes = found := by
      simp only [resolvedAttributes, if_true, hfound]
    rw [heq]
    constructor
    · rintro key reference (⟨-, hfilled, hembedded⟩ | ⟨hname, -, -⟩)
      · exact resolved_of_resolveIn hbase hrelative hfilled hembedded hfound
      · exact absurd hname (by decide)
    · exact fun hnone => eq_of_resolveIn hfound fun h => hnone _ _ (.source rfl h.1 h.2)
  · by_cases hlink : name = "a".toList
    · subst hlink
      obtain ⟨found, hfound⟩ := htarget rfl
      have heq : resolvedAttributes base "a".toList attributes = found := by
        simp only [resolvedAttributes, himage, if_false, if_true, hfound]
      rw [heq]
      constructor
      · rintro key reference (⟨hname, -, -⟩ | ⟨-, hfilled, hlocal⟩)
        · exact absurd hname himage
        · exact resolved_of_resolveIn hbase hrelative hfilled hlocal hfound
      · exact fun hnone => eq_of_resolveIn hfound fun h => hnone _ _ (.target rfl h.1 h.2)
    · have heq : resolvedAttributes base name attributes = attributes := by
        simp only [resolvedAttributes, himage, hlink, if_false]
      rw [heq]
      refine ⟨?_, fun _ => rfl⟩
      rintro key reference (⟨hname, -, -⟩ | ⟨hname, -, -⟩)
      · exact absurd hname himage
      · exact absurd hname hlink

/-! ## Trees -/

/-- A list of checks passes exactly when each of them does. -/
theorem forM_eq_ok_iff {α ε : Type} (check : α → Except ε Unit) (items : List α) :
    items.forM check = .ok () ↔ ∀ a ∈ items, check a = .ok () := by
  induction items with
  | nil => simp [pure, Except.pure]
  | cons a items ih =>
    rw [List.forall_mem_cons, ← ih]
    show (check a >>= fun _ => items.forM check) = .ok () ↔ _
    cases check a with
    | error e => simp [bind, Except.bind]
    | ok u => simp [bind, Except.bind]

/-- There is no defect exactly when one kind of reference can be resolved in every element of its
name. -/
theorem firstDefect_eq_ok_iff {base skipped : Text} {name key : String} {nodes : List Node} :
    firstDefect base name key skipped nodes = .ok () ↔
      ∀ attributes kids, .element name.toList attributes kids ∈ Node.preorderAll nodes →
        ∃ found, resolveIn base key skipped attributes = .ok found := by
  have hcheck : ∀ attributes, ((resolveIn base key skipped attributes).map fun _ => ()) = .ok () ↔
      ∃ found, resolveIn base key skipped attributes = .ok found := by
    intro attributes
    cases resolveIn base key skipped attributes <;> simp [Except.map]
  rw [firstDefect, forM_eq_ok_iff]
  constructor
  · intro h attributes kids hnode
    exact (hcheck attributes).mp (h _ (List.mem_filter.mpr ⟨hnode, by simp [Node.isNamed]⟩))
  · intro h node hnode
    obtain ⟨hmem, hnamed⟩ := List.mem_filter.mp hnode
    cases node with
    | text kind t => rfl
    | element n attributes kids =>
      obtain rfl : n = name.toList := by simpa [Node.isNamed] using hnamed
      exact (hcheck attributes).mpr (h attributes kids hmem)

/-- Where the references of a tree are resolved, those of each element can be. -/
theorem resolvable_of_absolutizeLinks {base : Text} {nodes content : List Node}
    (h : absolutizeLinks base nodes = .ok content) :
    ∀ node ∈ Node.preorderAll nodes, Resolvable base node := by
  obtain ⟨hsources, htargets, -⟩ := absolutizeLinks_eq_ok_iff.mp h
  intro node hnode
  cases node with
  | text kind t => trivial
  | element name attributes kids =>
    constructor
    · rintro rfl
      exact firstDefect_eq_ok_iff.mp hsources attributes kids hnode
    · rintro rfl
      exact firstDefect_eq_ok_iff.mp htargets attributes kids hnode

/-- Nodes correspond to what they become when their references are resolved, as their attributes
do. -/
theorem corresponds_resolveNodes {base : Text} {related : Text → Attributes → Attributes → Prop}
    {valid : Node → Prop} {nodes : List Node} (h : ∀ node ∈ Node.preorderAll nodes, valid node)
    (hrelated : ∀ name attributes kids, valid (.element name attributes kids) →
      related name attributes (resolvedAttributes base name attributes)) :
    Corresponds related nodes (resolveNodes base nodes) := by
  induction nodes using Node.forest_induction with
  | nil => exact .nil
  | text kind content others ih =>
    obtain ⟨-, hothers⟩ := (Node.forall_preorderAll_text ..).mp h
    rw [resolveNodes, resolveNode]
    exact .text kind content (ih hothers)
  | element name attributes kids others ihKids ih =>
    obtain ⟨hname, hkids, hothers⟩ := (Node.forall_preorderAll_element ..).mp h
    rw [resolveNodes, resolveNode]
    exact .element name (hrelated name attributes kids hname) (ihKids hkids) (ih hothers)

/-- The schemes of pages. -/
def webSchemes : List Text := ["http".toList, "https".toList]

/-- Whatever the tree, when its references are resolved against the absolute URL of a page, the ones
to something elsewhere come to have a scheme, and all else in the tree is as it was. The URL needs
no host for it. -/
theorem absolutizeLinks_redirects {base scheme : Text} {nodes content : List Node}
    (hbase : Url.HasScheme (Url.tidy base) scheme) (hweb : scheme.map Char.toLower ∈ webSchemes)
    (h : absolutizeLinks base nodes = .ok content) :
    Corresponds (Redirects base) nodes content := by
  have hrelative : scheme.map Char.toLower ∈ Url.relativeSchemes := by
    have hall : ∀ s ∈ webSchemes, s ∈ Url.relativeSchemes := by decide
    exact hall _ hweb
  obtain ⟨-, -, rfl⟩ := absolutizeLinks_eq_ok_iff.mp h
  exact corresponds_resolveNodes (resolvable_of_absolutizeLinks h) fun _ _ _ =>
    redirects_resolvedAttributes hbase hrelative

/-- A link around nothing. -/
def linkTo (target : String) : Node :=
  .element "a".toList [("href".toList, .single target.toList)] []

/-- An image without anything but a source. -/
def imageFrom (source : String) : Node :=
  .element "img".toList [("src".toList, .single source.toList)] []

/-- Links and images in a link, some of them to be left alone. -/
def linkedPage : List Node :=
  [.element "a".toList
    [("id".toList, .single "i".toList), ("href".toList, .single " ../y?q ".toList)]
    [imageFrom "//h.test/\n", imageFrom " data:,z", .text .plain "t".toList, linkTo "#top",
      linkTo "ma\nilto:m", linkTo "http:\t"]]

/-- The same with their references resolved. -/
def redirectedPage : List Node :=
  [.element "a".toList
    [("id".toList, .single "i".toList), ("href".toList, .single "http://A.test/y?q".toList)]
    [imageFrom "http://h.test/", imageFrom " data:,z", .text .plain "t".toList, linkTo "#top",
      linkTo "ma\nilto:m", linkTo "http://A.test/b/c;p?d"]]

theorem absolutizeLinks_redirects_linkedPage :
    let base := "HTTP://A.test/b/c;p?d".toList
    Url.HasScheme (Url.tidy base) "HTTP".toList ∧ "HTTP".toList.map Char.toLower ∈ webSchemes ∧
      absolutizeLinks base linkedPage = .ok redirectedPage ∧
      Corresponds (Redirects base) linkedPage redirectedPage := by
  have hbase : Url.HasScheme (Url.tidy "HTTP://A.test/b/c;p?d".toList) "HTTP".toList :=
    ⟨⟨_, rfl, rfl⟩, List.all_eq_true.mp (by decide), by decide⟩
  have hresolved : absolutizeLinks "HTTP://A.test/b/c;p?d".toList linkedPage =
      .ok redirectedPage := by rfl
  exact ⟨hbase, by decide, hresolved, absolutizeLinks_redirects hbase (by decide) hresolved⟩

end PageMarkdown.Page
