import PageMarkdown.Proofs.Blocks
import PageMarkdown.Proofs.Inert
import PageMarkdown.Proofs.Refusal

/-!
# Trees in which nothing is seen

Where every string is blank and no image, link or rule shows anything by itself,
each kind of element comes to blanks at most: it trims what its children come to
and is silent when nothing is left. The walks carry this through every nesting,
so the document is empty, whatever markers its elements would put around content.
-/

namespace PageMarkdown.Markdown

open Text Html

/-- The node shows nothing by itself: a string is blank or is passed over, and an element is no
rule, no image with a source and no link with a target. -/
def isUnseen : Node → Bool
  | .text kind content => kind != .cdata && (!kind.isRead || isAllBlank content)
  | .element name attributes _ =>
    match Role.ofName name with
    | .rule => false
    | .image => isAllBlank (attributes.text "src")
    | .link => isAllBlank (attributes.text "href")
    | _ => true

/-- Strings that show nothing are blank wherever they are read. -/
theorem isAllBlank_of_isUnseen {kind : StringKind} {content : Text}
    (h : isUnseen (.text kind content)) (hread : kind.isRead ∨ kind.isInnerText) :
    isAllBlank content = true := by
  cases kind <;> simp_all [isUnseen, StringKind.isRead, StringKind.isInnerText]

theorem isAllBlank_append (t u : Text) :
    isAllBlank (t ++ u) = (isAllBlank t && isAllBlank u) := List.all_append

/-- What walks over nodes come to when nothing is seen in them. -/
structure UnseenWalks (room : Nat) (nodes : List Node) : Prop where
  /-- As running text there are only blanks. -/
  content (depth : Nat) : isAllBlank (walkAll room depth nodes).value = true
  /-- There are no items. -/
  items (depth : Nat) : (walkItems room depth nodes).value = []
  /-- The rows below have empty cells. -/
  rows (inHead : Bool) : ∀ r ∈ (walkRows room inHead nodes).value, ∀ cell ∈ r.cells, cell = []
  /-- Cells are empty. -/
  cells : ∀ cell ∈ (walkCells room nodes).value.1, cell = []
  /-- The text has only blanks. -/
  innerText : isAllBlank (Node.innerText nodes) = true

/-! ## Elements -/

/-- Around blanks no element puts anything. -/
theorem isAllBlank_frame {name : Text} {attributes : Attributes} {kids : List Node}
    {frame : Text → Text} (hshown : shown name attributes kids = .content frame)
    (h : isUnseen (.element name attributes kids)) {t : Text} (ht : isAllBlank t = true) :
    isAllBlank (frame t) = true := by
  have htrim := (trim_eq_nil_iff t).mpr ht
  rw [shown] at hshown
  rw [isUnseen] at h
  cases hrole : Role.ofName name <;> rw [hrole] at hshown h <;> cases hshown
  case link =>
    beta_reduce
    rw [htrim, (trim_eq_nil_iff _).mpr h]
    rfl
  case transparent => exact ht
  all_goals
    -- Every other frame stands around the trimmed children, and around nothing it is nothing.
    beta_reduce
    rw [htrim]
    rfl

/-- An element that is shown by a fixed text shows blanks at most. -/
theorem isAllBlank_fixed {name : Text} {attributes : Attributes} {kids : List Node} {t : Text}
    (hshown : shown name attributes kids = .fixed t)
    (h : isUnseen (.element name attributes kids))
    (hkids : isAllBlank (Node.innerText kids) = true) : isAllBlank t = true := by
  have htrim := (trim_eq_nil_iff _).mpr hkids
  rw [shown] at hshown
  rw [isUnseen] at h
  cases hrole : Role.ofName name <;> rw [hrole] at hshown h <;> cases hshown
  case lineBreak => rfl
  case code =>
    rw [codeMarkdown, htrim]
    rfl
  case preformatted =>
    rw [preformattedMarkdown, trimRight_eq_nil (List.all_eq_true.mp hkids)]
    rfl
  case image =>
    rw [imageElement, (trim_eq_nil_iff _).mpr h]
    rfl
  case rule => cases h
  case hidden => rfl

/-- A table whose cells are all empty is nothing. -/
theorem renderTable_of_empty {rows : List TableRow} (h : ∀ r ∈ rows, ∀ cell ∈ r.cells, cell = []) :
    renderTable rows = [] := by
  refine renderTable_eq_nil (.inr (List.eq_nil_iff_forall_not_mem.mpr fun i hi => ?_))
  obtain ⟨r, hr, hcell⟩ := ((contentColumns_columnsOf rows).mem_iff i).mp hi
  rw [List.getD_eq_getElem?_getD] at hcell
  cases hget : r.cells[i]? with
  | none => simp [hget] at hcell
  | some cell =>
    rw [hget] at hcell
    exact hcell (h r hr cell (List.mem_of_getElem? hget))

/-- A cell element without content gives empty cells. -/
theorem cellTexts_of_isAllBlank (attributes : Attributes) {content : Text}
    (h : isAllBlank content = true) : ∀ cell ∈ cellTexts attributes content, cell = [] := by
  intro cell hcell
  rw [cellTexts, (trim_eq_nil_iff _).mpr h] at hcell
  rcases List.mem_cons.mp hcell with rfl | hcell
  · rfl
  · exact (List.mem_replicate.mp hcell).2

/-- An element in which nothing is seen comes to blanks. -/
theorem isAllBlank_walk_element {name : Text} {attributes : Attributes} {kids : List Node}
    (h : isUnseen (.element name attributes kids)) (hkids : ∀ r, UnseenWalks r kids)
    (room depth : Nat) :
    isAllBlank (walk room depth (.element name attributes kids)).value = true := by
  cases room with
  | zero =>
    rw [walk_element_zero]
    rfl
  | succ room =>
    rw [walk_element_succ]
    cases hshown : shown name attributes kids with
    | fixed t => exact isAllBlank_fixed hshown h (hkids room).innerText
    | content frame => exact isAllBlank_frame hshown h ((hkids room).content depth)
    | items ordered =>
      show isAllBlank (renderList ordered depth (walkItems room depth kids).value) = true
      rw [(hkids room).items depth]
      rfl
    | rows =>
      show isAllBlank (renderTable (tableRowsOf room name kids).value) = true
      rw [renderTable_of_empty]
      · rfl
      · rw [tableRowsOf]
        split
        · exact (hkids room).rows false
        · simp [Marked.clear]

namespace UnseenWalks

variable {room : Nat}

theorem nil : UnseenWalks room [] := by
  constructor
  · intro depth
    rw [walkAll]
    rfl
  · intro depth
    rw [walkItems]
    rfl
  · intro inHead
    simp [walkRows, Marked.clear]
  · simp [walkCells, Marked.clear]
  · rfl

theorem text {others : List Node} (hothers : UnseenWalks room others) {kind : StringKind}
    {content : Text} (h : isUnseen (.text kind content)) :
    UnseenWalks room (.text kind content :: others) := by
  constructor
  · intro depth
    have hspace : isSpace (.text kind content) := by
      by_cases hread : kind.isRead = true
      · simp [isSpace, isAllBlank_of_isUnseen h (.inl hread)]
      · simp [isSpace, hread]
    rw [walkAll, Marked.value_append, isAllBlank_append, hothers.content, Bool.and_true, isAllBlank,
      List.all_eq_true]
    exact fun c hc => isBlank_of_isGap ((walk_space hspace room depth).2 c hc)
  · intro depth
    rw [walkItems]
    exact hothers.items depth
  · intro inHead
    rw [walkRows]
    exact hothers.rows inHead
  · rw [walkCells]
    exact hothers.cells
  · rw [Node.innerText_text, isAllBlank_append, hothers.innerText, Bool.and_true]
    split
    · exact isAllBlank_of_isUnseen h (.inr ‹_›)
    · rfl

theorem element {kids others : List Node} (hothers : UnseenWalks room others) {name : Text}
    {attributes : Attributes} (h : isUnseen (.element name attributes kids))
    (hkids : ∀ r, UnseenWalks r kids) :
    UnseenWalks room (.element name attributes kids :: others) := by
  have hsame := hkids room
  constructor
  · intro depth
    rw [walkAll, Marked.value_append, isAllBlank_append, hothers.content, Bool.and_true]
    exact isAllBlank_walk_element h hkids room depth
  · intro depth
    rw [walkItems]
    split
    · rw [Marked.value_append, hothers.items, Marked.map, if_pos (hsame.content (depth + 1))]
      rfl
    · exact hothers.items depth
  · intro inHead
    rw [walkRows, Marked.value_append]
    refine List.forall_mem_append.mpr ⟨?_, hothers.rows inHead⟩
    split
    · simp [Marked.clear]
    · rw [Marked.value_append]
      refine List.forall_mem_append.mpr ⟨?_, hsame.rows _⟩
      split
      · rw [rowOf, Marked.map]
        dsimp only
        split
        · simp
        · exact List.forall_mem_singleton.mpr hsame.cells
      · simp [Marked.clear]
  · rw [walkCells]
    dsimp only
    split
    · exact List.forall_mem_append.mpr
        ⟨cellTexts_of_isAllBlank attributes (hsame.content 0), hothers.cells⟩
    · exact hothers.cells
  · rw [Node.innerText_element, isAllBlank_append, hsame.innerText, hothers.innerText]
    rfl

end UnseenWalks

/-- Where nothing is seen, no walk comes to anything but blanks. -/
theorem unseenWalks {nodes : List Node} (h : ∀ node ∈ Node.preorderAll nodes, isUnseen node)
    (room : Nat) : UnseenWalks room nodes := by
  induction nodes using Node.forest_induction generalizing room with
  | nil => exact .nil
  | text kind content others ih =>
    obtain ⟨hnode, hothers⟩ := (Node.forall_preorderAll_text ..).mp h
    exact (ih hothers room).text hnode
  | element name attributes kids others ihKids ih =>
    obtain ⟨hnode, hkids, hothers⟩ := (Node.forall_preorderAll_element ..).mp h
    exact (ih hothers room).element hnode (ihKids hkids)

/-! ## Documents -/

/-- A document in which nothing is seen is converted, to nothing. -/
theorem Converter.documentText_of_isUnseen (c : Converter) {nodes : List Node}
    (h : ∀ node ∈ Node.preorderAll nodes, isUnseen node) : c.documentText nodes = .ok [] := by
  obtain ⟨t, ht⟩ : ∃ t, c.documentText nodes = .ok t := by
    refine (exists_documentText_iff c nodes).mpr fun s hs n hlong => ?_
    obtain ⟨kind, hread, hmem⟩ := Node.mem_readStrings.mp ((resolvesOwn nodes c.room).content hs)
    obtain ⟨before, digits, after, hparts, -⟩ := hlong
    have hblank := isAllBlank_of_isUnseen (h _ hmem) (.inl hread)
    exact not_mem_of_isAllBlank hblank (by simp [hparts])
  have hempty := (trim_eq_nil_iff _).mpr ((unseenWalks h c.room).content 0)
  rw [documentText_eq, unlessRefused_eq_ok_iff] at ht
  rw [documentText_eq, unlessRefused_eq_ok_iff, settle, hempty]
  exact ⟨ht.1, rfl⟩

/-- A tree in which every string is blank, and no rule, no image with a source, no link with a
target and no character data stand, is converted to nothing, whatever elements are nested in it and
whatever the limit. In any part of a parsed document scripts and style sheets may hold text
besides. -/
theorem Converter.documentText_unseen (c : Converter) :
    (∀ nodes : List Node, (∀ node ∈ Node.preorderAll nodes, isUnseen node) →
        c.documentText nodes = .ok []) ∧
      ∀ {stray : Nat → Char} {markup : Text} {nodes root : List Node},
        parse stray markup = .ok nodes → Node.IsRoot nodes root →
          (∀ node ∈ Node.preorderAll (Node.visibleAll root), isUnseen node) →
            c.documentText root = .ok [] := by
  refine ⟨fun nodes h => c.documentText_of_isUnseen h, fun hparse hroot h => ?_⟩
  have hsilent := hroot.allHideSilence (parse_allBuilt hparse).allHideSilence
  rw [← c.documentText_visibleAll_of_silent hsilent, c.documentText_of_isUnseen h]

/-- A list, a table, a script, a comment and a link, with nothing to be seen in any of them. -/
def hollowPage : List Node :=
  [.element "ol".toList [] [.element "li".toList [] [.element "br".toList [] []]],
    .element "table".toList [] [.element "tr".toList []
      [.element "td".toList [("colspan".toList, .single "2".toList)]
        [.element "pre".toList [] [.text .plain "\n".toList]]]],
    .element "script".toList [] [.text .script "x".toList],
    .text .comment "y".toList,
    .element "a".toList [] [.text .plain " ".toList]]

theorem Converter.documentText_unseen_hollowPage :
    let c : Converter := ⟨9, false⟩
    parse (Environment.stray {})
      ("<ol><li><br></ol><table><tr><td colspan=2><pre>\n</pre></table>".toList ++
        "<script>x</script><!--y--><a>\t</a>".toList) = .ok hollowPage ∧
    (∀ node ∈ Node.preorderAll (Node.visibleAll hollowPage), isUnseen node) ∧
    c.documentText (Node.visibleAll hollowPage) = .ok [] ∧ c.documentText hollowPage = .ok [] := by
  have hparse : parse (Environment.stray {})
      ("<ol><li><br></ol><table><tr><td colspan=2><pre>\n</pre></table>".toList ++
        "<script>x</script><!--y--><a>\t</a>".toList) = .ok hollowPage := rfl
  have hunseen : ∀ node ∈ Node.preorderAll (Node.visibleAll hollowPage), isUnseen node := by decide
  obtain ⟨htree, hdocument⟩ := documentText_unseen ⟨9, false⟩
  exact ⟨hparse, hunseen, htree _ hunseen, hdocument hparse .whole hunseen⟩

end PageMarkdown.Markdown
