import PageMarkdown.Markdown.Document
import PageMarkdown.Proofs.Conversion
import PageMarkdown.Proofs.Element
import PageMarkdown.Proofs.Html.Built
import PageMarkdown.Proofs.Registry
import PageMarkdown.Proofs.Text.Lines
import PageMarkdown.Proofs.Text.Lowercase
import PageMarkdown.Proofs.Text.Replace
import PageMarkdown.Proofs.Url.Safe

/-!
# The images that a body shows

The images that a walk shows can be listed without walking the tree: nothing else
about images matters for the walk, so whatever becomes of the other ones, the
Markdown stays the same. Each of them is an image element of the tree. The walk
looks its name up in lower case, the registry as the tree has it. So an image with a
lower-case name is registered when the images of the document are, and the inventory
in front of the body has a line that leads to the same URL; one whose name a tree
builder has kept in another case is listed only through another image with the same
source.
-/

namespace PageMarkdown.Markdown

open Text Html

/-- An image, whatever the case of its name. -/
theorem ofName_eq_image_iff (name : Text) :
    Role.ofName name = .image ↔ lower name = "img".toList := by
  constructor
  · intro h
    have himage : ∀ entry ∈ Role.known, entry.2 = .image → entry.1 = "img" := by decide
    obtain ⟨entry, hentry, hname, hrole⟩ := Role.exists_known h Role.noConfusion
    rw [← hname, himage entry hentry hrole]
  · intro h
    rw [Role.ofName, h]
    rfl

/-! ## The images that a walk shows -/

/-- An image that a walk shows. -/
structure ShownImage where
  /-- The name of its element, as the tree has it. -/
  name : Text
  /-- The attributes of its element. -/
  attributes : Attributes
  deriving DecidableEq, Repr

mutual

/-- The images that are shown at a node, in order. -/
def shownImagesAt (room : Nat) : Node → List ShownImage
  | .text _ _ => []
  | .element name attributes kids =>
    match room with
    | 0 => []
    | room + 1 =>
      match shown name attributes kids with
      | .fixed _ => if Role.ofName name = .image then [⟨name, attributes⟩] else []
      | .content _ => shownImages room kids
      | .items _ => shownImagesInItems room kids
      | .rows => if name = "table".toList then shownImagesInRows room kids else []

/-- The images that are shown in nodes, one after another. -/
def shownImages (room : Nat) : List Node → List ShownImage
  | [] => []
  | node :: others => shownImagesAt room node ++ shownImages room others

/-- The images that are shown in the items among the children of a list. -/
def shownImagesInItems (room : Nat) : List Node → List ShownImage
  | [] => []
  | .text _ _ :: others => shownImagesInItems room others
  | .element name _ kids :: others =>
    (if lower name = "li".toList then shownImages room kids else []) ++
      shownImagesInItems room others

/-- The images that are shown in the rows below nodes. -/
def shownImagesInRows (room : Nat) : List Node → List ShownImage
  | [] => []
  | .text _ _ :: others => shownImagesInRows room others
  | .element name _ kids :: others =>
    (if name = "table".toList then []
      else (if name = "tr".toList then shownImagesInCells room kids else []) ++
        shownImagesInRows room kids) ++ shownImagesInRows room others

/-- The images that are shown in the cells among the children of a row. -/
def shownImagesInCells (room : Nat) : List Node → List ShownImage
  | [] => []
  | .text _ _ :: others => shownImagesInCells room others
  | .element name _ kids :: others =>
    (if lower name = "th".toList || lower name = "td".toList then shownImages room kids else []) ++
      shownImagesInCells room others

end

/-! ## Other images do not matter -/

mutual

/-- The node with the attributes of every image in it changed. -/
def redraw (change : Attributes → Attributes) : Node → Node
  | .text kind content => .text kind content
  | .element name attributes kids =>
    .element name (if Role.ofName name = .image then change attributes else attributes)
      (redrawAll change kids)

/-- The nodes with the attributes of every image in them changed. -/
def redrawAll (change : Attributes → Attributes) : List Node → List Node
  | [] => []
  | node :: others => redraw change node :: redrawAll change others

end

/-- A change of images leaves the Markdown of some of them as it is. -/
def Keeps (change : Attributes → Attributes) (images : List ShownImage) : Prop :=
  ∀ image ∈ images, imageElement (change image.attributes) = imageElement image.attributes

theorem keeps_append {change : Attributes → Attributes} {images others : List ShownImage} :
    Keeps change (images ++ others) ↔ Keeps change images ∧ Keeps change others :=
  List.forall_mem_append

/-- Images have no text. -/
theorem innerText_redrawAll (change : Attributes → Attributes) (nodes : List Node) :
    Node.innerText (redrawAll change nodes) = Node.innerText nodes := by
  induction nodes using Node.forest_induction with
  | nil => rfl
  | text kind content others ih =>
    rw [redrawAll, redraw, Node.innerText_text, Node.innerText_text, ih]
  | element name attributes kids others ihKids ih =>
    rw [redrawAll, redraw, Node.innerText_element, Node.innerText_element, ihKids, ih]

/-- The walks over nodes stay the same when the images that they show keep their Markdown. -/
structure RedrawnWalks (change : Attributes → Attributes) (room : Nat) (nodes : List Node) :
    Prop where
  /-- As running text. -/
  content (hkept : Keeps change (shownImages room nodes)) (depth : Nat) :
    walkAll room depth (redrawAll change nodes) = walkAll room depth nodes
  /-- As the children of a list. -/
  items (hkept : Keeps change (shownImagesInItems room nodes)) (depth : Nat) :
    walkItems room depth (redrawAll change nodes) = walkItems room depth nodes
  /-- Below a table. -/
  rows (hkept : Keeps change (shownImagesInRows room nodes)) (inHead : Bool) :
    walkRows room inHead (redrawAll change nodes) = walkRows room inHead nodes
  /-- As the children of a row. -/
  cells (hkept : Keeps change (shownImagesInCells room nodes)) :
    walkCells room (redrawAll change nodes) = walkCells room nodes

/-- An image that is shown keeps its Markdown, and any other element is shown in the same way. -/
theorem walk_redraw_element {change : Attributes → Attributes} {room : Nat} {name : Text}
    {attributes : Attributes} {kids : List Node} (hkids : ∀ r, RedrawnWalks change r kids)
    (hkept : Keeps change (shownImagesAt room (.element name attributes kids))) (depth : Nat) :
    walk room depth (redraw change (.element name attributes kids)) =
      walk room depth (.element name attributes kids) := by
  rw [redraw]
  cases room with
  | zero => rw [walk_element_zero, walk_element_zero]
  | succ room =>
    rw [shownImagesAt] at hkept
    rw [walk_element_succ, walk_element_succ]
    by_cases himage : Role.ofName name = .image
    · have hshown : ∀ attributes kids,
          shown name attributes kids = .fixed (imageElement attributes) := by
        intro attributes kids
        rw [shown, himage]
      rw [hshown] at hkept
      rw [hshown, hshown, if_pos himage]
      exact congrArg Marked.clear (hkept ⟨name, attributes⟩ (by simp [himage]))
    · have hshown : shown name attributes (redrawAll change kids) = shown name attributes kids := by
        rw [shown, shown, innerText_redrawAll]
      rw [if_neg himage, hshown]
      revert hkept
      cases shown name attributes kids with
      | fixed t => exact fun _ => rfl
      | content frame =>
        exact fun hkept => congrArg (Marked.map frame) ((hkids room).content hkept depth)
      | items ordered =>
        exact fun hkept =>
          congrArg (Marked.map (renderList ordered depth)) ((hkids room).items hkept depth)
      | rows =>
        intro hkept
        simp only [tableRowsOf] at hkept ⊢
        split at hkept
        · rename_i hname
          rw [if_pos hname, if_pos hname, (hkids room).rows hkept false]
        · rename_i hname
          rw [if_neg hname, if_neg hname]

namespace RedrawnWalks

variable {change : Attributes → Attributes} {room : Nat}

theorem nil : RedrawnWalks change room [] := by
  constructor <;> intros <;> rw [redrawAll]

theorem text {others : List Node} (hothers : RedrawnWalks change room others) (kind : StringKind)
    (content : Text) : RedrawnWalks change room (.text kind content :: others) := by
  constructor
  · intro hkept depth
    rw [shownImages, shownImagesAt, List.nil_append] at hkept
    rw [redrawAll, redraw, walkAll, walkAll, hothers.content hkept]
  · intro hkept depth
    rw [shownImagesInItems] at hkept
    rw [redrawAll, redraw, walkItems, walkItems, hothers.items hkept]
  · intro hkept inHead
    rw [shownImagesInRows] at hkept
    rw [redrawAll, redraw, walkRows, walkRows, hothers.rows hkept]
  · intro hkept
    rw [shownImagesInCells] at hkept
    rw [redrawAll, redraw, walkCells, walkCells, hothers.cells hkept]

theorem element {kids others : List Node} (hkids : ∀ r, RedrawnWalks change r kids)
    (hothers : RedrawnWalks change room others) (name : Text) (attributes : Attributes) :
    RedrawnWalks change room (.element name attributes kids :: others) := by
  have hsame := hkids room
  constructor
  · intro hkept depth
    rw [shownImages] at hkept
    obtain ⟨hnode, hbehind⟩ := keeps_append.mp hkept
    rw [redrawAll, walkAll, walkAll, walk_redraw_element hkids hnode, hothers.content hbehind]
  · intro hkept depth
    rw [shownImagesInItems] at hkept
    obtain ⟨hitem, hbehind⟩ := keeps_append.mp hkept
    rw [redrawAll, redraw, walkItems, walkItems, hothers.items hbehind]
    split
    · rename_i hname
      rw [if_pos hname] at hitem
      rw [hsame.content hitem]
    · rfl
  · intro hkept inHead
    rw [shownImagesInRows] at hkept
    obtain ⟨hhere, hbehind⟩ := keeps_append.mp hkept
    rw [redrawAll, redraw, walkRows, walkRows, hothers.rows hbehind]
    split
    · rfl
    · rename_i htable
      rw [if_neg htable] at hhere
      obtain ⟨hrow, hbelow⟩ := keeps_append.mp hhere
      rw [hsame.rows hbelow]
      split
      · rename_i hname
        rw [if_pos hname] at hrow
        rw [hsame.cells hrow]
      · rfl
  · intro hkept
    rw [shownImagesInCells] at hkept
    obtain ⟨hcell, hbehind⟩ := keeps_append.mp hkept
    rw [redrawAll, redraw, walkCells, walkCells, hothers.cells hbehind]
    dsimp only
    split
    · rename_i hname
      rw [if_pos hname] at hcell
      have himage : Role.ofName name ≠ .image := by
        rw [Ne, ofName_eq_image_iff]
        intro heq
        rw [heq] at hname
        exact absurd hname (by decide)
      rw [hsame.content hcell, if_neg himage]
    · rfl

end RedrawnWalks

/-- Whatever becomes of the images that are not shown, the walks over nodes stay the same. -/
theorem redrawnWalks (change : Attributes → Attributes) (nodes : List Node) (room : Nat) :
    RedrawnWalks change room nodes := by
  induction nodes using Node.forest_induction generalizing room with
  | nil => exact .nil
  | text kind content others ih => exact (ih room).text kind content
  | element name attributes kids others ihKids ih =>
    exact .element ihKids (ih room) name attributes

/-! ## Shown images are images of the tree -/

/-- The images in a list of trees, in document order. -/
def imagesBelow (nodes : List Node) : List ShownImage :=
  (Node.preorderAll nodes).filterMap fun
    | .text _ _ => none
    | .element name attributes _ =>
      if Role.ofName name = .image then some ⟨name, attributes⟩ else none

theorem imagesBelow_text (kind : StringKind) (content : Text) (others : List Node) :
    imagesBelow (.text kind content :: others) = imagesBelow others := by
  simp [imagesBelow, Node.preorderAll, Node.preorder]

theorem imagesBelow_element (name : Text) (attributes : Attributes) (kids others : List Node) :
    imagesBelow (.element name attributes kids :: others) =
      (if Role.ofName name = .image then [⟨name, attributes⟩] else []) ++ imagesBelow kids ++
        imagesBelow others := by
  by_cases himage : Role.ofName name = .image <;>
    simp [imagesBelow, Node.preorderAll, Node.preorder, himage]

theorem mem_imagesBelow {image : ShownImage} {nodes : List Node} :
    image ∈ imagesBelow nodes ↔ Role.ofName image.name = .image ∧
      ∃ kids, .element image.name image.attributes kids ∈ Node.preorderAll nodes := by
  rw [imagesBelow, List.mem_filterMap]
  constructor
  · rintro ⟨node, hnode, himage⟩
    cases node with
    | text kind content => cases himage
    | element name attributes kids =>
      obtain ⟨hrole, hsame⟩ := Option.ite_none_right_eq_some.mp himage
      obtain rfl := Option.some.inj hsame
      exact ⟨hrole, kids, hnode⟩
  · rintro ⟨hrole, kids, hnode⟩
    exact ⟨_, hnode, if_pos hrole⟩

/-- Whatever walk shows an image, it is one of those below the nodes. -/
structure ShowsOwn (room : Nat) (nodes : List Node) : Prop where
  /-- As running text. -/
  content : shownImages room nodes ⊆ imagesBelow nodes
  /-- As the children of a list. -/
  items : shownImagesInItems room nodes ⊆ imagesBelow nodes
  /-- Below a table. -/
  rows : shownImagesInRows room nodes ⊆ imagesBelow nodes
  /-- As the children of a row. -/
  cells : shownImagesInCells room nodes ⊆ imagesBelow nodes

/-- An element shows itself if it is an image, or images among its children. -/
theorem shownImagesAt_element_subset {room : Nat} (name : Text) (attributes : Attributes)
    {kids : List Node} (hkids : ∀ r, ShowsOwn r kids) :
    shownImagesAt room (.element name attributes kids) ⊆
      (if Role.ofName name = .image then [⟨name, attributes⟩] else []) ++ imagesBelow kids := by
  cases room with
  | zero =>
    rw [shownImagesAt]
    exact List.nil_subset _
  | succ room =>
    have hbelow := List.subset_append_right
      (if Role.ofName name = .image then [⟨name, attributes⟩] else []) (imagesBelow kids)
    rw [shownImagesAt]
    cases shown name attributes kids with
    | fixed t => exact List.subset_append_left ..
    | content frame => exact List.Subset.trans (hkids room).content hbelow
    | items ordered => exact List.Subset.trans (hkids room).items hbelow
    | rows =>
      dsimp only
      split
      · exact List.Subset.trans (hkids room).rows hbelow
      · exact List.nil_subset _

namespace ShowsOwn

variable {room : Nat}

theorem nil : ShowsOwn room [] := by
  constructor
  · rw [shownImages]
    exact List.nil_subset _
  · rw [shownImagesInItems]
    exact List.nil_subset _
  · rw [shownImagesInRows]
    exact List.nil_subset _
  · rw [shownImagesInCells]
    exact List.nil_subset _

theorem text {others : List Node} (hothers : ShowsOwn room others) (kind : StringKind)
    (content : Text) : ShowsOwn room (.text kind content :: others) := by
  constructor <;> rw [imagesBelow_text]
  · rw [shownImages, shownImagesAt, List.nil_append]
    exact hothers.content
  · rw [shownImagesInItems]
    exact hothers.items
  · rw [shownImagesInRows]
    exact hothers.rows
  · rw [shownImagesInCells]
    exact hothers.cells

theorem element {kids others : List Node} (hkids : ∀ r, ShowsOwn r kids)
    (hothers : ShowsOwn room others) (name : Text) (attributes : Attributes) :
    ShowsOwn room (.element name attributes kids :: others) := by
  have hsame := hkids room
  -- What is shown is shown at the element, below it, or behind it.
  have hbelow : imagesBelow kids ⊆ imagesBelow (.element name attributes kids :: others) := by
    rw [imagesBelow_element]
    exact List.Subset.trans (List.subset_append_right ..) (List.subset_append_left ..)
  have hbehind : imagesBelow others ⊆ imagesBelow (.element name attributes kids :: others) := by
    rw [imagesBelow_element]
    exact List.subset_append_right ..
  constructor
  · rw [shownImages]
    refine List.append_subset.mpr ⟨?_, List.Subset.trans hothers.content hbehind⟩
    rw [imagesBelow_element]
    exact List.Subset.trans (shownImagesAt_element_subset name attributes hkids)
      (List.subset_append_left ..)
  · rw [shownImagesInItems]
    refine List.append_subset.mpr ⟨?_, List.Subset.trans hothers.items hbehind⟩
    split
    · exact List.Subset.trans hsame.content hbelow
    · exact List.nil_subset _
  · rw [shownImagesInRows]
    refine List.append_subset.mpr ⟨?_, List.Subset.trans hothers.rows hbehind⟩
    split
    · exact List.nil_subset _
    · refine List.append_subset.mpr ⟨?_, List.Subset.trans hsame.rows hbelow⟩
      split
      · exact List.Subset.trans hsame.cells hbelow
      · exact List.nil_subset _
  · rw [shownImagesInCells]
    refine List.append_subset.mpr ⟨?_, List.Subset.trans hothers.cells hbehind⟩
    split
    · exact List.Subset.trans hsame.content hbelow
    · exact List.nil_subset _

end ShowsOwn

/-- Whatever the nodes and the room, only images below the nodes are shown. -/
theorem showsOwn (nodes : List Node) (room : Nat) : ShowsOwn room nodes := by
  induction nodes using Node.forest_induction generalizing room with
  | nil => exact .nil
  | text kind content others ih => exact (ih room).text kind content
  | element name attributes kids others ihKids ih =>
    exact .element ihKids (ih room) name attributes

/-- An image that the body of a document shows is an image element of its tree. -/
theorem mem_preorderAll_of_shown {nodes : List Node} {room : Nat} {image : ShownImage}
    (h : image ∈ shownImages room (bodyOf nodes)) :
    lower image.name = "img".toList ∧
      ∃ kids, .element image.name image.attributes kids ∈ Node.preorderAll nodes := by
  obtain ⟨hrole, kids, hbody⟩ := mem_imagesBelow.mp ((showsOwn _ room).content h)
  exact ⟨(ofName_eq_image_iff _).mp hrole, kids, (isRoot_bodyOf nodes).preorderAll_subset hbody⟩

/-- The images that the body of a parsed document shows have lower-case names. -/
theorem name_of_shown {stray : Nat → Char} {markup : Text} {nodes : List Node}
    (hparse : parse stray markup = .ok nodes) {room : Nat} {image : ShownImage}
    (h : image ∈ shownImages room (bodyOf nodes)) : image.name = "img".toList := by
  obtain ⟨hname, kids, hnode⟩ := mem_preorderAll_of_shown h
  obtain ⟨⟨written, hwritten⟩, -⟩ := parse_allBuilt hparse _ hnode
  rw [hwritten, ← lower_lower, ← hwritten]
  exact hname

/-! ## Lines of the inventory -/

/-- An image in Markdown whose destination is a URL, with a title behind it or without one. -/
def PointsTo (markdown url : Text) : Prop :=
  ∃ alt title, markdown = '!' :: '[' :: alt ++ ']' :: '(' :: url ++ title ++ [')'] ∧
    (title = [] ∨ [' ', '"'] <+: title)

theorem pointsTo_imageMarkdown (url alt title : Text) :
    PointsTo (imageMarkdown url alt title) (Url.sanitize url) := by
  refine ⟨_, _, rfl, ?_⟩
  split
  · exact .inl rfl
  · exact .inr ⟨_, rfl⟩

/-- A flat text has no line feed. -/
theorem newline_not_mem_flatten (t : Text) : '\n' ∉ flatten t := fun hmem =>
  absurd ((isFlat_flatten t).isBreak_eq_false '\n' hmem) (by decide)

theorem newline_not_mem_sanitize (url : Text) : '\n' ∉ Url.sanitize url := fun hmem =>
  absurd (Url.of_isAllowed (Url.isAllowed_of_mem_sanitize hmem)).1 (by decide)

theorem not_mem_firstFilled {c : Char} {t fallback : Text} (ht : c ∉ t) (hfallback : c ∉ fallback) :
    c ∉ firstFilled t fallback := by
  rw [firstFilled]
  split
  · exact hfallback
  · exact ht

/-- An image is written on one line. -/
theorem newline_not_mem_imageMarkdown (url alt title : Text) :
    '\n' ∉ imageMarkdown url alt title := by
  have hflat := newline_not_mem_flatten
  have halt : '\n' ∉ firstFilled (flatten alt) (firstFilled (flatten title) "image".toList) :=
    not_mem_firstFilled (hflat alt) (not_mem_firstFilled (hflat title) (by decide))
  have htitle : '\n' ∉ replace '"' ['\\', '"'] (flatten title) := fun hmem =>
    hflat title ((mem_replace_of_not_mem (by decide)).mp hmem).2
  have hurl := newline_not_mem_sanitize url
  simp only [imageMarkdown]
  split <;>
    simp only [List.mem_append, List.mem_cons, List.not_mem_nil, halt, htitle, hurl] <;> decide

/-- A registry has a record for an image that is shown, and a line that leads where it does. -/
structure Registry.Lists (images : Registry) (attributes : Attributes) : Prop where
  /-- The source of the image, trimmed, is the URL of a record. -/
  known : ∃ r ∈ images, r.url = trim (attributes.text "src")
  /-- A line of the inventory is an image with the same safe URL. -/
  line : ∃ url line, PointsTo (imageElement attributes) url ∧ PointsTo line url ∧ '\n' ∉ line ∧
    '-' :: ' ' :: line ∈ images.renderLines

/-- A registry has a record for each source that it has been called with. -/
theorem Registry.known_ofCalls_iff {calls : List ImageRecord} {url : Text} (hfilled : url ≠ []) :
    (∃ r ∈ Registry.ofCalls calls, r.url = url) ↔ ∃ call ∈ calls, trim call.url = url := by
  rw [Registry.ofCalls_eq]
  have hurls : (∃ r ∈ (Registry.urlsOf calls).map (Registry.recordOf calls), r.url = url) ↔
      url ∈ Registry.urlsOf calls := by
    simp only [List.mem_map, exists_exists_and_eq_and, Registry.recordOf, exists_eq_right]
  rw [hurls, Registry.urlsOf, List.mem_eraseDups, List.mem_filter, List.mem_map]
  exact and_iff_left (by simpa using hfilled)

/-- An image that is shown is listed exactly when its source has been registered. -/
theorem Registry.lists_ofCalls_iff {calls : List ImageRecord} {attributes : Attributes}
    (hfilled : trim (attributes.text "src") ≠ []) :
    (Registry.ofCalls calls).Lists attributes ↔
      ∃ call ∈ calls, trim call.url = trim (attributes.text "src") := by
  rw [← Registry.known_ofCalls_iff hfilled]
  refine ⟨Registry.Lists.known, fun hknown => ⟨hknown, ?_⟩⟩
  obtain ⟨r, hr, hurl⟩ := hknown
  refine ⟨Url.sanitize r.url, imageMarkdown r.url r.alt r.title, ?_,
    pointsTo_imageMarkdown .., newline_not_mem_imageMarkdown _ _ _, List.mem_map_of_mem hr⟩
  rw [hurl, imageElement, if_neg (by simpa using hfilled)]
  exact pointsTo_imageMarkdown ..

/-- A document has an image with a source, trimmed, where its images are looked for: the featured
image, or an element whose name is written in lower case. -/
def HasImageFrom (featured : Option ImageRecord) (nodes : List Node) (url : Text) : Prop :=
  (∃ image, featured = some image ∧ trim image.url = url) ∨
    ∃ attributes kids, .element "img".toList attributes kids ∈ Node.preorderAll nodes ∧
      trim (attributes.text "src") = url

/-- The calls that register the images of a document are about those that it has where its images
are looked for. -/
theorem exists_call_iff (featured : Option ImageRecord) (nodes : List Node) {url : Text}
    (hfilled : url ≠ []) :
    (∃ call ∈ featured.toList ++ Registry.callsIn nodes, trim call.url = url) ↔
      HasImageFrom featured nodes url := by
  simp only [HasImageFrom, List.mem_append, or_and_right, exists_or, Option.mem_toList]
  refine or_congr Iff.rfl ⟨?_, ?_⟩
  · rintro ⟨call, hcall, hurl⟩
    obtain ⟨node, hnode, himage⟩ := List.mem_filterMap.mp hcall
    cases node with
    | text kind content => cases himage
    | element name attributes kids =>
      obtain ⟨⟨rfl, -⟩, hsame⟩ := Option.ite_none_right_eq_some.mp himage
      obtain rfl := Option.some.inj hsame
      exact ⟨attributes, kids, hnode, hurl⟩
  · rintro ⟨attributes, kids, hnode, hurl⟩
    have hsource : isAllBlank (attributes.text "src") = false := by
      by_contra hblank
      rw [Bool.not_eq_false, ← trim_eq_nil_iff, hurl] at hblank
      exact hfilled hblank
    exact ⟨_, List.mem_filterMap.mpr ⟨_, hnode, if_pos ⟨rfl, hsource⟩⟩, hurl⟩

/-! ## Documents -/

/-- A piece stands in the paragraphs that it is one of. -/
theorem infix_paragraphs {piece : Text} {pieces : List Text} (h : piece ∈ pieces) :
    piece <:+: paragraphs pieces := by
  obtain ⟨i, hi, rfl⟩ := List.getElem_of_mem h
  rw [List.getElem_eq_getElem_intersperse_two_mul hi]
  exact List.infix_of_mem_flatten (List.getElem_mem _)

section

variable {env : Environment} {settings : Option ConvertSettings} {post : Metadata}
  {content document : Text}

/-- A document is composed of the sections of its metadata and its body. -/
theorem compose_eq_ok_iff :
    (compose env settings post content).outcome = .ok document ↔
      ∃ sections body, (metadataSections env settings post content).outcome = .ok sections ∧
        (ofHtml env settings content).outcome = .ok body ∧
        document = paragraphs ["title: ".toList ++ flatten post.title, divider,
          paragraphs sections, divider, firstFilled (trim body) "_(no content)_".toList] ++
            ['\n'] := by
  rw [compose]
  constructor
  · intro h
    obtain ⟨sections, hsections, h⟩ := (Report.outcome_andThen_eq_ok_iff ..).mp h
    obtain ⟨body, hbody, h⟩ := (Report.outcome_andThen_eq_ok_iff ..).mp h
    exact ⟨sections, body, hsections, hbody, (Except.ok.inj h).symm⟩
  · rintro ⟨sections, body, hsections, hbody, rfl⟩
    rw [Report.outcome_bind, hsections, Except.bind, Report.outcome_bind, hbody]
    rfl

/-- Where there are sections, the excerpt has been converted and the images have been registered;
their inventory comes last. -/
theorem exists_parts_of_metadataSections {sections : List Text}
    (h : (metadataSections env settings post content).outcome = .ok sections) :
    ∃ excerpt images front, (ofHtml env settings post.excerpt).outcome = .ok excerpt ∧
      (imageRegistry env settings post content).outcome = .ok images ∧
      sections = front ++ linesSection "Images" images.renderLines := by
  rw [metadataSections] at h
  -- With an excerpt or without one, the other parts follow.
  split at h
  all_goals
    rename_i hempty
    obtain ⟨excerpt, hexcerpt, h⟩ := (Report.outcome_andThen_eq_ok_iff ..).mp h
    obtain ⟨categories, -, h⟩ := (Report.outcome_andThen_eq_ok_iff ..).mp h
    obtain ⟨custom, -, h⟩ := (Report.outcome_andThen_eq_ok_iff ..).mp h
    obtain ⟨tags, -, h⟩ := (Report.outcome_andThen_eq_ok_iff ..).mp h
    obtain ⟨images, himages, h⟩ := (Report.outcome_andThen_eq_ok_iff ..).mp h
    obtain rfl := Except.ok.inj h
  · exact ⟨[], images, _, by rw [List.isEmpty_iff.mp hempty, ofHtml_nil], himages, rfl⟩
  · exact ⟨excerpt, images, _, hexcerpt, himages, rfl⟩

/-- Without terms the sections are the summary, if the excerpt has one, an empty section of
categories and the inventory. -/
theorem metadataSections_termless (hcategories : post.categories = []) (htags : post.tags = [])
    (htaxonomies : post.taxonomies = []) :
    (metadataSections env settings post content).outcome =
      (ofHtml env settings post.excerpt).outcome.bind fun excerpt =>
        (imageRegistry env settings post content).outcome.map fun images =>
          (if (trim excerpt).isEmpty then []
            else [sectionText "Summary".toList (trim excerpt)]) ++
          sectionText "Category".toList "_(none)_".toList ::
            linesSection "Images" images.renderLines := by
  rw [metadataSections, hcategories, htags, htaxonomies]
  obtain ⟨events, outcome⟩ := imageRegistry env settings post content
  split
  · rename_i hempty
    rw [List.isEmpty_iff.mp hempty, ofHtml_nil]
    cases outcome <;> rfl
  · rw [Report.outcome_bind]
    cases (ofHtml env settings post.excerpt).outcome with
    | error e => rfl
    | ok excerpt =>
      cases outcome with
      | error e => rfl
      | ok images =>
        refine congrArg Except.ok (?_ : (_ ++ [_] ++ [] ++ [] ++ _ : List Text) = _ ++ _ :: _)
        rw [List.append_nil, List.append_nil, List.append_assoc, List.singleton_append]
        rfl

/-- Where images cannot be registered, the content cannot be converted either. -/
theorem ofHtml_eq_error_of_imageRegistry {fault : Fault}
    (h : (imageRegistry env settings post content).outcome = .error fault) :
    (ofHtml env settings content).outcome = .error fault := by
  rw [imageRegistry] at h
  rw [ofHtml_outcome]
  split at h
  · cases h
  · rename_i hfilled
    rw [Report.outcome_bind, ConvertSettings.orDefault_outcome, Except.bind,
      Report.outcome_bind, parseWith_outcome] at h
    rw [if_neg hfilled, convertedOrFault]
    cases htree : env.treeOf (ConvertSettings.inUse env settings).parser content with
    | error e =>
      rw [htree] at h
      exact congrArg Except.error (Except.error.inj h)
    | ok found =>
      rw [htree] at h
      cases found <;> cases h

/-- Without terms a document is composed unless its excerpt or its content cannot be converted. -/
theorem compose_termless_eq_error_iff {fault : Fault} (hcategories : post.categories = [])
    (htags : post.tags = []) (htaxonomies : post.taxonomies = []) :
    (compose env settings post content).outcome = .error fault ↔
      (ofHtml env settings post.excerpt).outcome = .error fault ∨
        (∃ t, (ofHtml env settings post.excerpt).outcome = .ok t) ∧
          (ofHtml env settings content).outcome = .error fault := by
  rw [compose, Report.outcome_bind, metadataSections_termless hcategories htags htaxonomies]
  cases (ofHtml env settings post.excerpt).outcome with
  | error e => simp [Except.bind]
  | ok excerpt =>
    simp only [reduceCtorEq, Except.ok.injEq, exists_eq', true_and, false_or]
    cases himages : (imageRegistry env settings post content).outcome with
    | error e =>
      rw [ofHtml_eq_error_of_imageRegistry himages]
      rfl
    | ok images =>
      rw [Except.bind, Except.map, Except.bind, Report.outcome_bind]
      cases (ofHtml env settings content).outcome with
      | error e => rfl
      | ok body => exact iff_of_false nofun nofun

/-- A document holds the inventory of its images, if there are any. -/
theorem images_infix_compose {images : Registry}
    (hdocument : (compose env settings post content).outcome = .ok document)
    (himages : (imageRegistry env settings post content).outcome = .ok images)
    (hfilled : images ≠ []) :
    sectionText "Images".toList (unlines images.renderLines) <:+: document := by
  obtain ⟨sections, body, hsections, -, rfl⟩ := compose_eq_ok_iff.mp hdocument
  obtain ⟨excerpt, found, front, -, hfound, rfl⟩ := exists_parts_of_metadataSections hsections
  obtain rfl := Except.ok.inj (hfound.symm.trans himages)
  have hlines : found.renderLines ≠ [] := by simpa [Registry.renderLines] using hfilled
  have hsection : sectionText "Images".toList (unlines found.renderLines) ∈
      front ++ linesSection "Images" found.renderLines := by
    rw [linesSection, if_neg (by simpa using hlines)]
    exact List.mem_append_right front (List.mem_singleton_self _)
  have hpiece : paragraphs (front ++ linesSection "Images" found.renderLines) <:+: paragraphs
      ["title: ".toList ++ flatten post.title, divider,
        paragraphs (front ++ linesSection "Images" found.renderLines), divider,
        firstFilled (trim body) "_(no content)_".toList] :=
    infix_paragraphs (by simp)
  exact ((infix_paragraphs hsection).trans hpiece).trans (List.prefix_append ..).isInfix

end

section Walks

variable {env : Environment} {settings : Option ConvertSettings} {markup : Text}

/-- Any other markup becomes nothing or its plain text. -/
theorem eq_plainText_of_not_walks (h : ∀ nodes, ¬ Walks env settings markup nodes) {body : Text}
    (hbody : (ofHtml env settings markup).outcome = .ok body) :
    body = [] ∨ body = plainText markup := by
  rw [Markdown.ofHtml_outcome] at hbody
  split at hbody
  · exact .inl (Except.ok.inj hbody).symm
  · rename_i hfilled
    refine .inr ?_
    simp only [convertedOrFault] at hbody
    split at hbody
    · cases hbody
    · exact (Except.ok.inj hbody).symm
    · rename_i nodes htree
      split at hbody
      · exact (Except.ok.inj hbody).symm
      · rename_i hroom
        exact absurd ⟨by simpa using hfilled, htree, by simpa using hroom⟩ (h nodes)

/-- Where a tree is walked, its images are registered behind the featured one. -/
theorem Walks.imageRegistry_outcome {nodes : List Node} (h : Walks env settings markup nodes)
    (post : Metadata) :
    (imageRegistry env settings post markup).outcome =
      .ok (Registry.ofCalls (post.featuredImage.toList ++ Registry.callsIn nodes)) := by
  have hparsed : (parseWith env (ConvertSettings.inUse env settings) markup).outcome =
      .ok (some nodes) := by
    rw [parseWith_outcome, h.tree]
  rw [imageRegistry, h.filled, ← Registry.collect_ofCalls]
  simp only [Bool.false_eq_true, if_false, Report.outcome_bind, ConvertSettings.orDefault_outcome,
    Except.bind, hparsed]
  cases post.featuredImage <;> rfl

end Walks

/-- Where markup is converted without a walk, its Markdown is empty or plain text. Where a tree is
walked, no image matters for the body but those that the walk shows, nested in whatever way. The
registry lists one of them exactly when the document has an image with its source where images are
looked for, so it lists each whose name is in lower case, as every name is that the default parser
gives. A document that is composed holds the inventory of the registry. -/
theorem shownImages_inventoried (env : Environment) (settings : Option ConvertSettings)
    (post : Metadata) (content : Text) :
    ((∀ nodes, ¬ Walks env settings content nodes) →
      ∀ body, (ofHtml env settings content).outcome = .ok body →
        body = [] ∨ body = plainText content) ∧
    ∀ nodes, Walks env settings content nodes →
      let used := ConvertSettings.inUse env settings
      let c := Converter.make env used
      let shown := shownImages c.room (bodyOf nodes)
      (ofHtml env settings content).outcome = c.documentText (bodyOf nodes) ∧
      (∀ change, Keeps change shown →
        c.documentText (redrawAll change (bodyOf nodes)) = c.documentText (bodyOf nodes)) ∧
      ∃ images, (imageRegistry env settings post content).outcome = .ok images ∧
        ∀ image ∈ shown, imageElement image.attributes ≠ [] →
          (images.Lists image.attributes ↔
            HasImageFrom post.featuredImage nodes (trim (image.attributes.text "src"))) ∧
          (image.name = "img".toList → images.Lists image.attributes) ∧
          (used.parser = defaultParser → image.name = "img".toList) ∧
          ∀ document, (compose env settings post content).outcome = .ok document →
            images.Lists image.attributes →
              sectionText "Images".toList (unlines images.renderLines) <:+: document := by
  refine ⟨fun h body hbody => eq_plainText_of_not_walks h hbody, fun nodes h => ?_⟩
  refine ⟨h.ofHtml_outcome, fun change hkept => ?_, _, h.imageRegistry_outcome post, ?_⟩
  · rw [Converter.documentText_eq, Converter.documentText_eq,
      (redrawnWalks change _ _).content hkept 0]
  · intro image hshown hdrawn
    have hsource : trim (image.attributes.text "src") ≠ [] := fun hblank =>
      hdrawn (by rw [imageElement, hblank]; rfl)
    have hlists := (Registry.lists_ofCalls_iff hsource).trans
      (exists_call_iff post.featuredImage nodes hsource)
    refine ⟨hlists, fun hname => hlists.mpr (.inr ?_), fun hparser => ?_,
      fun document hdocument hlisted => ?_⟩
    · obtain ⟨-, kids, hnode⟩ := mem_preorderAll_of_shown hshown
      exact ⟨_, kids, hname ▸ hnode, rfl⟩
    · have htree := h.tree
      rw [hparser] at htree
      exact name_of_shown (Environment.parse_of_treeOf htree) hshown
    · obtain ⟨r, hr, -⟩ := hlisted.known
      exact images_infix_compose hdocument (h.imageRegistry_outcome post) (List.ne_nil_of_mem hr)

/-- Markup of a list with an image inside a link. -/
def linkedImageMarkup : Text := "<ul><li><a href=/p><IMG src=' /i'></a></li></ul>".toList

/-- Its tree. -/
def linkedImage : List Node :=
  [.element "ul".toList [] [.element "li".toList [] [.element "a".toList
    [("href".toList, .single "/p".toList)]
    [.element "img".toList [("src".toList, .single " /i".toList)] []]]]]

/-- A document with that body. -/
def linkedImageDocument : Text :=
  "title: t\n\n---\n\n**Category**\n\n_(none)_\n\n**Images**\n\n- ![image](/i)\n\n---\n\n".toList ++
    "- [![image](/i)](/p)\n".toList

/-- The image of that list. -/
def shownLinkedImage : ShownImage := ⟨"img".toList, [("src".toList, .single " /i".toList)]⟩

/-- The image is in the list, in the registry and in the inventory. -/
theorem shownImages_inventoried_linkedImage :
    Walks {} none linkedImageMarkup linkedImage ∧
      shownImages 100 (bodyOf linkedImage) = [shownLinkedImage] ∧
      (compose {} none { title := "t".toList } linkedImageMarkup).outcome =
        .ok linkedImageDocument ∧
      ∃ images,
        (imageRegistry {} none { title := "t".toList } linkedImageMarkup).outcome = .ok images ∧
        images.Lists shownLinkedImage.attributes ∧
        sectionText "Images".toList (unlines images.renderLines) <:+: linkedImageDocument := by
  have hwalks : Walks {} none linkedImageMarkup linkedImage := ⟨rfl, rfl, rfl⟩
  have hshown : shownImages 100 (bodyOf linkedImage) = [shownLinkedImage] := rfl
  have hdocument : (compose {} none { title := "t".toList } linkedImageMarkup).outcome =
      .ok linkedImageDocument := by decide +kernel
  obtain ⟨-, -, images, himages, hlisted⟩ :=
    (shownImages_inventoried {} none { title := "t".toList } linkedImageMarkup).2 linkedImage hwalks
  obtain ⟨-, hlists, -, hinventory⟩ :=
    hlisted shownLinkedImage (hshown ▸ List.mem_singleton_self _) (by decide)
  have hlisted := hlists rfl
  exact ⟨hwalks, hshown, hdocument, images, himages, hlisted, hinventory _ hdocument hlisted⟩

/-- An image with a capital name. -/
def capitalImage : List Node :=
  [.element "IMG".toList [("src".toList, .single "/i".toList)] []]

/-- Surroundings with a second parser, which keeps the case of names. -/
def keptCase : Environment where
  otherBuilder := fun parser =>
    if parser = "xml".toList then some fun _ => .ok capitalImage else none

/-- Where a parser keeps the case of names, the body shows an image that no record is about. -/
theorem shownImages_capitalImage_unlisted :
    let settings := some ⟨"xml".toList, 100⟩
    let markup := "<IMG src=\"/i\"/>".toList
    Walks keptCase settings markup capitalImage ∧
      (ofHtml keptCase settings markup).outcome = .ok "![image](/i)".toList ∧
      shownImages 100 (bodyOf capitalImage) =
        [⟨"IMG".toList, [("src".toList, .single "/i".toList)]⟩] ∧
      (imageRegistry keptCase settings { title := "t".toList } markup).outcome = .ok [] := by
  exact ⟨⟨rfl, rfl, rfl⟩, by decide +kernel, rfl, rfl⟩

end PageMarkdown.Markdown
