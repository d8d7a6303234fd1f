import PageMarkdown.Proofs.Conversion
import PageMarkdown.Proofs.Element
import PageMarkdown.Proofs.Html.Built
import PageMarkdown.Proofs.Walk

/-!
# Nodes that are not shown

Comments, declarations, scripts and style sheets leave no trace in the Markdown of
a tree in which scripts and style sheets are silent: deleting them, wherever they
stand, changes no walk except for the elements that are cut. The running text leaves
them out by the kind of a string and by the role of an element, lists and tables
because they are no items, rows or cells and have no rows below them, and code
because the strings of scripts and style sheets belong to no text around them. The
default parser builds no other trees. Where a tree builder gives the strings of a
script no kind of their own, code around the script shows them.
-/

namespace PageMarkdown.Html

open Text

/-- Strings that remark on a document and are no part of its content. -/
def StringKind.isRemark : StringKind → Bool
  | comment | doctype | declaration | instruction => true
  | _ => false

theorem StringKind.isRead_of_isRemark {kind : StringKind} (h : kind.isRemark = true) :
    kind.isRead = false := by
  cases kind <;> first | rfl | cases h

theorem StringKind.isInnerText_of_isRemark {kind : StringKind} (h : kind.isRemark = true) :
    kind.isInnerText = false := by
  cases kind <;> first | rfl | cases h

namespace Node

/-! ## Deletion -/

/-- The name of a script or a style sheet, in any case. -/
def isHiddenName (name : Text) : Bool := Token.isRaw (lower name)

mutual

/-- What is left of a node without remarks, scripts and style sheets. -/
def visible : Node → List Node
  | .text kind content => if kind.isRemark then [] else [.text kind content]
  | .element name attributes kids =>
    if isHiddenName name then [] else [.element name attributes (visibleAll kids)]

/-- What is left of nodes without remarks, scripts and style sheets. -/
def visibleAll : List Node → List Node
  | [] => []
  | node :: others => visible node ++ visibleAll others

end

theorem visibleAll_remark {kind : StringKind} (h : kind.isRemark = true) (content : Text)
    (others : List Node) : visibleAll (.text kind content :: others) = visibleAll others := by
  rw [visibleAll, visible, if_pos h, List.nil_append]

theorem visibleAll_text {kind : StringKind} (h : kind.isRemark = false) (content : Text)
    (others : List Node) :
    visibleAll (.text kind content :: others) = .text kind content :: visibleAll others := by
  rw [visibleAll, visible, if_neg (Bool.eq_false_iff.mp h), List.singleton_append]

theorem visibleAll_hidden {name : Text} (h : isHiddenName name = true) (attributes : Attributes)
    (kids others : List Node) :
    visibleAll (.element name attributes kids :: others) = visibleAll others := by
  rw [visibleAll, visible, if_pos h, List.nil_append]

theorem visibleAll_element {name : Text} (h : isHiddenName name = false) (attributes : Attributes)
    (kids others : List Node) :
    visibleAll (.element name attributes kids :: others) =
      .element name attributes (visibleAll kids) :: visibleAll others := by
  rw [visibleAll, visible, if_neg (Bool.eq_false_iff.mp h), List.singleton_append]

/-! ## Silence -/

/-- Nothing in the nodes belongs to a text around them, and nothing is a row. -/
structure IsSilent (nodes : List Node) : Prop where
  /-- No string belongs to a text around the nodes. -/
  innerText : innerText nodes = []
  /-- No element is a row. -/
  rowless : ∀ node ∈ preorderAll nodes, node.isNamed "tr".toList = false

/-- If the element is a script or a style sheet, what it holds is silent. -/
def HidesSilence : Node → Prop
  | .text _ _ => True
  | .element name _ kids => isHiddenName name = true → IsSilent kids

/-- The scripts and style sheets of a list of trees are silent. -/
def AllHideSilence (nodes : List Node) : Prop := ∀ node ∈ preorderAll nodes, node.HidesSilence

theorem IsRoot.allHideSilence {nodes root : List Node} (hroot : IsRoot nodes root)
    (h : AllHideSilence nodes) : AllHideSilence root :=
  fun node hnode => h node (hroot.preorderAll_subset hnode)

/-- Strings that belong to no text around them are silent. -/
theorem isSilent_of_isHiddenString {nodes : List Node}
    (h : ∀ node ∈ nodes, node.isHiddenString = true) : IsSilent nodes := by
  induction nodes with
  | nil => exact ⟨rfl, by simp [preorderAll]⟩
  | cons node others ih =>
    obtain ⟨hnode, hothers⟩ := List.forall_mem_cons.mp h
    cases node with
    | text kind content =>
      refine ⟨?_, (forall_preorderAll_text ..).mpr ⟨rfl, (ih hothers).rowless⟩⟩
      rw [innerText_text, (ih hothers).innerText, List.append_nil, if_neg]
      simpa [isHiddenString] using hnode
    | element name attributes kids => cases hnode

/-- Scripts and style sheets are silent as they are built. -/
theorem AllBuilt.allHideSilence {nodes : List Node} (h : AllBuilt nodes) :
    AllHideSilence nodes := by
  intro node hnode
  cases node with
  | text kind content => trivial
  | element name attributes kids =>
    obtain ⟨⟨written, hwritten⟩, hraw⟩ := h _ hnode
    intro hhidden
    rw [isHiddenName, hwritten, lower_lower, ← hwritten] at hhidden
    exact isSilent_of_isHiddenString (hraw hhidden)

end Node

end PageMarkdown.Html

namespace PageMarkdown.Markdown

open Text Html

/-! ## Walks that differ in cuts -/

/-- The marks other than those of elements that were cut. -/
def uncutMarks (marks : List Mark) : List Mark := marks.filter fun mark => !mark.isCut

theorem uncutMarks_append (marks marks' : List Mark) :
    uncutMarks (marks ++ marks') = uncutMarks marks ++ uncutMarks marks' := List.filter_append ..

/-- What is refused does not depend on the elements that were cut. -/
theorem findSome?_refused?_uncutMarks (marks : List Mark) :
    (uncutMarks marks).findSome? Mark.refused? = marks.findSome? Mark.refused? := by
  induction marks with
  | nil => rfl
  | cons mark marks ih =>
    cases mark with
    | cut element => exact ih
    | hollowTable rows => exact ih
    | longNumeral n => rfl

/-- Two results differ at most in the elements that were cut. -/
structure Marked.Alike {α : Type} (m m' : Marked α) : Prop where
  /-- The values are the same. -/
  value : m.value = m'.value
  /-- The marks are the same but for cuts. -/
  marks : uncutMarks m.marks = uncutMarks m'.marks

namespace Marked

variable {α β : Type}

theorem Alike.refl (m : Marked α) : m.Alike m := ⟨rfl, rfl⟩

theorem Alike.map {m m' : Marked α} (h : m.Alike m') (f : α → β) : (m.map f).Alike (m'.map f) :=
  ⟨congrArg f h.value, h.marks⟩

theorem Alike.append {m m' n n' : Marked (List α)} (hm : m.Alike m') (hn : n.Alike n') :
    (m ++ n).Alike (m' ++ n') := by
  constructor
  · rw [value_append, value_append, hm.value, hn.value]
  · rw [marks_append, marks_append, uncutMarks_append, uncutMarks_append, hm.marks, hn.marks]

/-- A result without a value and without marks other than cuts may stand before another one. -/
theorem Alike.behind {m m' n : Marked (List α)} (h : m.Alike m') (hn : (clear []).Alike n) :
    m.Alike (n ++ m') := hn.append h

end Marked

/-- A table depends on the elements that were cut only in its marks. -/
theorem Marked.Alike.table {rows rows' : Marked (List TableRow)} (h : rows.Alike rows') :
    (tableMarkdown rows).Alike (tableMarkdown rows') := by
  constructor
  · rw [tableMarkdown, tableMarkdown, h.value]
  · rw [tableMarkdown, tableMarkdown, uncutMarks_append, uncutMarks_append, h.marks, h.value]

/-- What a walk of any room finds in nodes without what is not shown is what it finds in the
nodes. -/
structure InertWalks (nodes : List Node) : Prop where
  /-- As running text. -/
  content (room depth : Nat) :
    (walkAll room depth (Node.visibleAll nodes)).Alike (walkAll room depth nodes)
  /-- As the children of a list. -/
  items (room depth : Nat) :
    (walkItems room depth (Node.visibleAll nodes)).Alike (walkItems room depth nodes)
  /-- Below a table. -/
  rows (room : Nat) (inHead : Bool) :
    (walkRows room inHead (Node.visibleAll nodes)).Alike (walkRows room inHead nodes)
  /-- As the children of a row. -/
  cells (room : Nat) : (walkCells room (Node.visibleAll nodes)).Alike (walkCells room nodes)
  /-- As the text of an element around them. -/
  innerText : Node.innerText (Node.visibleAll nodes) = Node.innerText nodes

/-- The name of a script or a style sheet is that of nothing else. -/
theorem ne_of_isHiddenName {name : Text} (h : Node.isHiddenName name = true) :
    Role.ofName name = .hidden ∧ lower name ≠ "li".toList ∧ name ≠ "table".toList ∧
      name ≠ "tr".toList ∧ lower name ≠ "th".toList ∧ lower name ≠ "td".toList := by
  have hlower : lower name = "script".toList ∨ lower name = "style".toList := by
    simpa [Node.isHiddenName, Token.isRaw] using h
  have hcases : Role.ofName name = .hidden ∧ lower name ≠ "li".toList ∧
      lower name ≠ lower "table".toList ∧ lower name ≠ lower "tr".toList ∧
      lower name ≠ "th".toList ∧ lower name ≠ "td".toList := by
    rw [Role.ofName]
    rcases hlower with h | h <;> rw [h] <;> decide
  exact ⟨hcases.1, hcases.2.1, fun h => hcases.2.2.1 (congrArg lower h),
    fun h => hcases.2.2.2.1 (congrArg lower h), hcases.2.2.2.2⟩

/-- A script or a style sheet is not shown, whether it is cut or not. -/
theorem walk_hidden_alike {name : Text} (hname : Node.isHiddenName name = true)
    (attributes : Attributes) (kids : List Node) (room depth : Nat) :
    (Marked.clear []).Alike (walk room depth (.element name attributes kids)) := by
  cases room with
  | zero =>
    rw [walk_element_zero]
    exact ⟨rfl, rfl⟩
  | succ room =>
    rw [walk_element_succ, shown, (ne_of_isHiddenName hname).1]
    exact .refl _

/-- An element is shown alike when its children are. -/
theorem walk_element_alike {kids : List Node} (hkids : InertWalks kids) (name : Text)
    (attributes : Attributes) (room depth : Nat) :
    (walk room depth (.element name attributes (Node.visibleAll kids))).Alike
      (walk room depth (.element name attributes kids)) := by
  cases room with
  | zero =>
    rw [walk_element_zero, walk_element_zero]
    exact .refl _
  | succ room =>
    -- The way in which an element is shown depends on its children only by their text.
    have hshown : shown name attributes (Node.visibleAll kids) = shown name attributes kids := by
      rw [shown, shown, hkids.innerText]
    rw [walk_element_succ, walk_element_succ, hshown]
    cases shown name attributes kids with
    | fixed t => exact .refl _
    | content frame => exact (hkids.content room depth).map frame
    | items ordered => exact (hkids.items room depth).map (renderList ordered depth)
    | rows =>
      refine Marked.Alike.table ?_
      rw [tableRowsOf, tableRowsOf]
      split
      · exact hkids.rows room false
      · exact .refl _

namespace InertWalks

theorem nil : InertWalks [] := by
  constructor
  · exact fun _ _ => .refl _
  · exact fun _ _ => .refl _
  · exact fun _ _ => .refl _
  · exact fun _ => .refl _
  · rfl

/-- A remark is passed over in every walk. -/
theorem remark {others : List Node} (hothers : InertWalks others) {kind : StringKind}
    (hkind : kind.isRemark = true) (content : Text) :
    InertWalks (.text kind content :: others) := by
  constructor
  · intro room depth
    rw [Node.visibleAll_remark hkind, walkAll, walk, StringKind.isRead_of_isRemark hkind]
    exact (hothers.content room depth).behind (.refl _)
  · intro room depth
    rw [Node.visibleAll_remark hkind, walkItems]
    exact hothers.items room depth
  · intro room inHead
    rw [Node.visibleAll_remark hkind, walkRows]
    exact hothers.rows room inHead
  · intro room
    rw [Node.visibleAll_remark hkind, walkCells]
    exact hothers.cells room
  · rw [Node.visibleAll_remark hkind, Node.innerText_text,
      StringKind.isInnerText_of_isRemark hkind]
    exact hothers.innerText

/-- Any other string is left where it is. -/
theorem text {others : List Node} (hothers : InertWalks others) {kind : StringKind}
    (hkind : kind.isRemark = false) (content : Text) :
    InertWalks (.text kind content :: others) := by
  constructor
  · intro room depth
    rw [Node.visibleAll_text hkind, walkAll, walkAll]
    exact (Marked.Alike.refl _).append (hothers.content room depth)
  · intro room depth
    rw [Node.visibleAll_text hkind, walkItems, walkItems]
    exact hothers.items room depth
  · intro room inHead
    rw [Node.visibleAll_text hkind, walkRows, walkRows]
    exact hothers.rows room inHead
  · intro room
    rw [Node.visibleAll_text hkind, walkCells, walkCells]
    exact hothers.cells room
  · rw [Node.visibleAll_text hkind, Node.innerText_text, Node.innerText_text, hothers.innerText]

/-- A script or a style sheet is no item, no row and no cell, and has no rows below it. -/
theorem hidden {kids others : List Node} (hothers : InertWalks others) {name : Text}
    (hname : Node.isHiddenName name = true) (hkids : Node.IsSilent kids)
    (attributes : Attributes) : InertWalks (.element name attributes kids :: others) := by
  obtain ⟨-, hitem, htable, hrow, hheader, hcell⟩ := ne_of_isHiddenName hname
  constructor
  · intro room depth
    rw [Node.visibleAll_hidden hname, walkAll]
    exact (hothers.content room depth).behind (walk_hidden_alike hname attributes kids room depth)
  · intro room depth
    rw [Node.visibleAll_hidden hname, walkItems, if_neg hitem]
    exact hothers.items room depth
  · intro room inHead
    rw [Node.visibleAll_hidden hname, walkRows, if_neg htable, if_neg hrow,
      walkRows_withoutRows _ _ _ hkids.rowless]
    exact (hothers.rows room inHead).behind (.refl _)
  · intro room
    rw [Node.visibleAll_hidden hname, walkCells]
    simp only [hheader, hcell]
    exact hothers.cells room
  · rw [Node.visibleAll_hidden hname, Node.innerText_element, hkids.innerText]
    exact hothers.innerText

/-- Any other element is left with what is left of its children. -/
theorem element {kids others : List Node} (hothers : InertWalks others) {name : Text}
    (hname : Node.isHiddenName name = false) (hkids : InertWalks kids) (attributes : Attributes) :
    InertWalks (.element name attributes kids :: others) := by
  constructor
  · intro room depth
    rw [Node.visibleAll_element hname, walkAll, walkAll]
    exact (walk_element_alike hkids name attributes room depth).append
      (hothers.content room depth)
  · intro room depth
    rw [Node.visibleAll_element hname, walkItems, walkItems]
    split
    · exact ((hkids.content room (depth + 1)).map _).append (hothers.items room depth)
    · exact hothers.items room depth
  · intro room inHead
    rw [Node.visibleAll_element hname, walkRows, walkRows]
    refine Marked.Alike.append ?_ (hothers.rows room inHead)
    split
    · exact .refl _
    · refine Marked.Alike.append ?_ (hkids.rows room _)
      split
      · exact (hkids.cells room).map _
      · exact .refl _
  · intro room
    rw [Node.visibleAll_element hname, walkCells, walkCells]
    dsimp only
    split
    · refine ⟨?_, ?_⟩
      · rw [(hkids.content room 0).value, (hothers.cells room).value]
      · rw [uncutMarks_append, uncutMarks_append, (hkids.content room 0).marks,
          (hothers.cells room).marks]
    · exact hothers.cells room
  · rw [Node.visibleAll_element hname, Node.innerText_element, Node.innerText_element,
      hkids.innerText, hothers.innerText]

end InertWalks

/-- In every walk over nodes with silent scripts, what is not shown may be deleted. -/
theorem inertWalks {nodes : List Node} (h : Node.AllHideSilence nodes) : InertWalks nodes := by
  induction nodes using Node.forest_induction with
  | nil => exact .nil
  | text kind content others ih =>
    have hothers := ih ((Node.forall_preorderAll_text ..).mp h).2
    cases hkind : kind.isRemark with
    | true => exact hothers.remark hkind content
    | false => exact hothers.text hkind content
  | element name attributes kids others ihKids ih =>
    obtain ⟨hsilent, hkids, hothers⟩ := (Node.forall_preorderAll_element ..).mp h
    cases hname : Node.isHiddenName name with
    | true => exact (ih hothers).hidden hname (hsilent hname) attributes
    | false => exact (ih hothers).element hname (ihKids hkids) attributes

/-! ## Documents -/

/-- Documents whose walks differ at most in cuts have the same Markdown. -/
theorem Converter.documentText_of_alike (c : Converter) {nodes nodes' : List Node}
    (h : (walkAll c.room 0 nodes).Alike (walkAll c.room 0 nodes')) :
    c.documentText nodes = c.documentText nodes' := by
  rw [documentText_eq, documentText_eq, h.value, ← findSome?_refused?_uncutMarks, h.marks,
    findSome?_refused?_uncutMarks]

/-- What is not shown may be deleted from a document with silent scripts. -/
theorem Converter.documentText_visibleAll_of_silent (c : Converter) {nodes : List Node}
    (h : Node.AllHideSilence nodes) :
    c.documentText (Node.visibleAll nodes) = c.documentText nodes :=
  c.documentText_of_alike ((inertWalks h).content _ _)

/-- The default parser builds trees with silent scripts and style sheets. The Markdown of any part
of such a tree, whatever parser has built it, is that of what is left of it without comments,
declarations, scripts and style sheets, at every depth limit; so no tree with other comments,
declarations, scripts and style sheets in any places has another one, as long as its own are
silent. -/
theorem Converter.documentText_visibleAll {env : Environment} {parser markup : Text}
    {nodes root : List Node} (htree : env.treeOf parser markup = .ok (some nodes))
    (hroot : Node.IsRoot nodes root) (c : Converter) :
    (parser = defaultParser → Node.AllHideSilence nodes) ∧
      (Node.AllHideSilence nodes →
        c.documentText (Node.visibleAll root) = c.documentText root ∧
          ∀ root', Node.AllHideSilence root' → Node.visibleAll root' = Node.visibleAll root →
            c.documentText root' = c.documentText root) := by
  constructor
  · rintro rfl
    exact (parse_allBuilt (Environment.parse_of_treeOf htree)).allHideSilence
  · intro hsilent
    have hdeleted := c.documentText_visibleAll_of_silent (hroot.allHideSilence hsilent)
    refine ⟨hdeleted, fun root' hsilent' hvisible => ?_⟩
    rw [← c.documentText_visibleAll_of_silent hsilent', hvisible, hdeleted]

/-- A list of two items, and nothing else. -/
def plainList : List Node :=
  [.element "ul".toList [] [.element "li".toList [] [.text .plain "a".toList],
    .element "li".toList [] [.element "code".toList [] [.text .plain "d".toList]]]]

/-- The list with a comment in an item, a style sheet between the items and a script inside code. -/
def litteredList : List Node :=
  [.element "ul".toList []
    [.element "li".toList [] [.text .plain "a".toList, .text .comment "b".toList],
      .element "style".toList [] [.text .stylesheet "c".toList],
      .element "li".toList [] [.element "code".toList []
        [.text .plain "d".toList, .element "script".toList [] [.text .script "e".toList]]]]]

/-- Both lists have the same Markdown. -/
theorem Converter.documentText_visibleAll_list :
    let c : Converter := ⟨9, false⟩
    Environment.treeOf {} defaultParser ("<ul><li>a<!--b--></li><style>c</style>".toList ++
      "<li><code>d<script>e</script></code></li></ul>".toList) = .ok (some litteredList) ∧
    Node.visibleAll litteredList = plainList ∧
    c.documentText plainList = .ok "- a\n- \x60d\x60".toList ∧
    c.documentText litteredList = .ok "- a\n- \x60d\x60".toList := by
  have hlittered : Environment.treeOf {} defaultParser
      ("<ul><li>a<!--b--></li><style>c</style>".toList ++
        "<li><code>d<script>e</script></code></li></ul>".toList) = .ok (some litteredList) := rfl
  have hplain : Converter.documentText ⟨9, false⟩ plainList = .ok "- a\n- \x60d\x60".toList := rfl
  obtain ⟨hsilent, hdeleted⟩ :=
    Converter.documentText_visibleAll hlittered .whole ⟨9, false⟩
  exact ⟨hlittered, rfl, hplain, (hdeleted (hsilent rfl)).1.symm.trans hplain⟩

/-- Code with a script in it whose string is of no kind of its own. -/
def scriptedCode : List Node :=
  [.element "code".toList [] [.text .plain "d".toList,
    .element "script".toList [] [.text .plain "e".toList]]]

/-- Surroundings with a second parser, which gives strings in scripts no kind of their own. -/
def plainScripts : Environment where
  otherBuilder := fun parser =>
    if parser = "xml".toList then some fun _ => .ok scriptedCode else none

/-- Where a parser gives the strings in scripts no kind of their own, code shows the scripts in
it. -/
theorem Converter.documentText_scriptedCode :
    let c : Converter := ⟨9, false⟩
    plainScripts.treeOf "xml".toList "<code>d<script>e</script></code>".toList =
        .ok (some scriptedCode) ∧
      c.documentText (Node.visibleAll scriptedCode) = .ok "\x60d\x60".toList ∧
      c.documentText scriptedCode = .ok "\x60de\x60".toList := ⟨rfl, rfl, rfl⟩

end PageMarkdown.Markdown
