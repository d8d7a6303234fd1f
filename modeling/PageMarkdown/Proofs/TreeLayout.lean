import PageMarkdown.Proofs.BlockLayout
import PageMarkdown.Proofs.Inventory

/-!
# Line breaks inside headings, emphases and links

The layout of what nodes are converted to can be computed from the tree: strings are
squeezed onto one line, breaks and raw texts bring line feeds, blocks bring blank
lines. Headings, emphases and links only trim what their children come to, so the
line breaks that are left between two solid characters stay between their marks.
-/

namespace PageMarkdown.Markdown

open Text Html

/-! ## Layouts of trees -/

mutual

/-- The layout of what a node is converted to. -/
def layoutOf (room : Nat) : Node → Layout
  | .text kind content => if kind.isRead then .of (stringMarkdown content).value else .bare 0
  | .element name attributes kids =>
    match room with
    | 0 => .bare 0
    | room + 1 =>
      match Role.ofName name with
      | .heading _ => (layoutAll room kids).asBlock
      | .paragraph => (layoutAll room kids).asBlock
      | .lineBreak => .bare .feed
      | .strong => (layoutAll room kids).core
      | .emphasis => (layoutAll room kids).core
      | .code => (Layout.of (Node.innerText kids)).core
      | .preformatted => (Layout.of (Node.innerText kids)).asFenced
      | .link => (layoutAll room kids).asLink (trim (attributes.text "href"))
      | .image => .of (imageElement attributes)
      | .list _ => .asList (layoutItems room kids)
      | .quote => (layoutAll room kids).asLines
      | .rule => .ofLines false
      | .table => if name = "table".toList && rowsFilled room kids then .ofLines true else .bare 0
      | .hidden => .bare 0
      | .transparent => layoutAll room kids

/-- The layout of what nodes are converted to, one after another. -/
def layoutAll (room : Nat) : List Node → Layout
  | [] => .bare 0
  | node :: others => layoutOf room node ++ layoutAll room others

/-- The layouts of the contents of the items among the children of a list. -/
def layoutItems (room : Nat) : List Node → List Layout
  | [] => []
  | .text _ _ :: others => layoutItems room others
  | .element name _ kids :: others =>
    if lower name = "li".toList && !(layoutAll room kids).isBare then
      (layoutAll room kids).core :: layoutItems room others
    else layoutItems room others

/-- Some cell of the rows of a table below nodes has content. -/
def rowsFilled (room : Nat) : List Node → Bool
  | [] => false
  | .text _ _ :: others => rowsFilled room others
  | .element name _ kids :: others =>
    name != "table".toList &&
        (name = "tr".toList && cellsFilled room kids || rowsFilled room kids) ||
      rowsFilled room others

/-- Some cell among the children of a row has content. -/
def cellsFilled (room : Nat) : List Node → Bool
  | [] => false
  | .text _ _ :: others => cellsFilled room others
  | .element name _ kids :: others =>
    (lower name = "th".toList || lower name = "td".toList) && !(layoutAll room kids).isBare ||
      cellsFilled room others

end

/-- What walks over nodes come to has the layout that is computed from the nodes. -/
structure LaidOut (room : Nat) (nodes : List Node) : Prop where
  /-- As running text. -/
  content (depth : Nat) : Layout.of (walkAll room depth nodes).value = layoutAll room nodes
  /-- As the items of a list. -/
  items (depth : Nat) : (walkItems room depth nodes).value.map Layout.of = layoutItems room nodes
  /-- As the rows of a table. -/
  rows (inHead : Bool) : ((walkRows room inHead nodes).value.any fun r =>
    r.cells.any fun cell => !cell.isEmpty) = rowsFilled room nodes
  /-- As the cells of a row. -/
  cells : ((walkCells room nodes).value.1.any fun cell => !cell.isEmpty) = cellsFilled room nodes

/-- An element is laid out as its children and its role say. -/
theorem layout_walk_element {kids : List Node} (hkids : ∀ r, LaidOut r kids) (name : Text)
    (attributes : Attributes) (room depth : Nat) :
    Layout.of (walk room depth (.element name attributes kids)).value =
      layoutOf room (.element name attributes kids) := by
  cases room with
  | zero =>
    rw [walk_element_zero, layoutOf]
    rfl
  | succ room =>
    have hcontent := (hkids room).content depth
    rw [walk_element_succ, layoutOf, shown]
    cases hrole : Role.ofName name with
    | heading level => exact (layout_headingMarkdown level _).trans (congrArg _ hcontent)
    | paragraph => exact (layout_block_trim _).trans (congrArg _ hcontent)
    | strong => exact (layout_enclosed_trim rfl _).trans (congrArg _ hcontent)
    | emphasis => exact (layout_enclosed_trim rfl _).trans (congrArg _ hcontent)
    | code => exact layout_codeMarkdown _
    | preformatted => exact layout_preformattedMarkdown _
    | link => exact (layout_linkMarkdown _ _).trans (congrArg _ hcontent)
    | list ordered =>
      refine (layout_renderList ?_ ordered depth).trans (congrArg _ ((hkids room).items depth))
      exact fun item hitem => isSolid_of_mem_walkItems hitem
    | quote => exact (layout_quoteMarkdown _).trans (congrArg _ hcontent)
    | table =>
      show Layout.of (renderTable (tableRowsOf room name kids).value) = _
      rw [tableRowsOf]
      by_cases hname : name = "table".toList
      · rw [if_pos hname, layout_renderTable (isFlat_walkRows room false kids),
          (hkids room).rows false, hname]
        rfl
      · rw [if_neg hname, decide_eq_false hname]
        rfl
    | transparent => exact hcontent
    | lineBreak | image | rule | hidden => rfl

/-- A cell element gives a filled cell exactly when its content is not blank. -/
theorem any_cellTexts (attributes : Attributes) (content : Text) :
    ((cellTexts attributes content).any fun cell => !cell.isEmpty) = !isAllBlank content := by
  have hempty : (normalizeCell (trim content)).isEmpty = isAllBlank content := by
    rw [Bool.eq_iff_iff, List.isEmpty_iff, normalizeCell_eq_nil_iff, isAllBlank_trim]
  simp [cellTexts, hempty]

namespace LaidOut

variable {room : Nat}

theorem nil : LaidOut room [] := by
  constructor
  · intro depth
    rw [walkAll, layoutAll]
    rfl
  · intro depth
    rw [walkItems, layoutItems]
    rfl
  · intro inHead
    rw [walkRows, rowsFilled]
    rfl
  · rw [walkCells, cellsFilled]
    rfl

theorem text {others : List Node} (hothers : LaidOut room others) (kind : StringKind)
    (content : Text) : LaidOut room (.text kind content :: others) := by
  constructor
  · intro depth
    rw [walkAll, Marked.value_append, Layout.of_append, hothers.content, layoutAll, walk, layoutOf]
    split <;> rfl
  · intro depth
    rw [walkItems, layoutItems]
    exact hothers.items depth
  · intro inHead
    rw [walkRows, rowsFilled]
    exact hothers.rows inHead
  · rw [walkCells, cellsFilled]
    exact hothers.cells

theorem element {kids others : List Node} (hkids : ∀ r, LaidOut r kids)
    (hothers : LaidOut room others) (name : Text) (attributes : Attributes) :
    LaidOut room (.element name attributes kids :: others) := by
  have hsame := hkids room
  have hbare : ∀ depth, (layoutAll room kids).isBare =
      isAllBlank (walkAll room depth kids).value := fun depth => by
    rw [← hsame.content depth, Layout.isBare_of]
  constructor
  · intro depth
    rw [walkAll, Marked.value_append, Layout.of_append, hothers.content, layoutAll,
      layout_walk_element hkids]
  · intro depth
    rw [walkItems, layoutItems]
    by_cases hname : lower name = "li".toList
    · rw [if_pos hname, Marked.value_append, List.map_append, hothers.items, decide_eq_true hname,
        hbare (depth + 1), Marked.map]
      cases isAllBlank (walkAll room (depth + 1) kids).value with
      | true => rfl
      | false =>
        show Layout.of (trim (walkAll room (depth + 1) kids).value) :: _ = _
        rw [Layout.of_trim, hsame.content]
        rfl
    · rw [if_neg hname, decide_eq_false hname]
      exact hothers.items depth
  · intro inHead
    rw [walkRows, rowsFilled, Marked.value_append, List.any_append, hothers.rows]
    congr 1
    by_cases htable : name = "table".toList
    · rw [if_pos htable, htable]
      rfl
    · rw [if_neg htable, Marked.value_append, List.any_append, hsame.rows,
        show (name != "table".toList) = true from bne_iff_ne.mpr htable, Bool.true_and]
      congr 1
      by_cases hrow : name = "tr".toList
      · rw [if_pos hrow, decide_eq_true hrow, Bool.true_and, ← hsame.cells, rowOf, Marked.map]
        cases (walkCells room kids).value.1 <;> simp
      · rw [if_neg hrow, decide_eq_false hrow]
        rfl
  · rw [walkCells, cellsFilled]
    dsimp only
    split
    · rename_i hname
      rw [List.any_append, any_cellTexts, hothers.cells, hname, hbare 0]
      rfl
    · rename_i hname
      rw [hothers.cells, Bool.of_not_eq_true hname]
      rfl

end LaidOut

/-- What walks over nodes come to is laid out as it is computed from the nodes. -/
theorem laidOut (nodes : List Node) (room : Nat) : LaidOut room nodes := by
  induction nodes using Node.forest_induction generalizing room with
  | nil => exact .nil
  | text kind content others ih => exact (ih room).text kind content
  | element name attributes kids others ihKids ih => exact .element ihKids (ih room) name attributes

/-! ## Nodes without line feeds -/

/-- The node brings no line feed by itself: it is a string, or an element within a line whose raw
texts have none. -/
def keepsLine : Node → Bool
  | .text _ _ => true
  | .element name attributes kids =>
    match Role.ofName name with
    | .strong => true
    | .emphasis => true
    | .code => !(Node.innerText kids).contains '\n'
    | .link => !(attributes.text "href").contains '\n'
    | .image => true
    | .hidden => true
    | .transparent => true
    | _ => false

/-- A string is shown without line feeds. -/
theorem newline_not_mem_stringMarkdown (t : Text) : '\n' ∉ (stringMarkdown t).value := by
  rw [stringMarkdown]
  cases hshown : shownText t with
  | error n => exact List.not_mem_nil
  | ok shown =>
    rw [shownText] at hshown
    cases hresolved : Reference.resolveAll t with
    | error n => rw [hresolved] at hshown; cases hshown
    | ok resolved =>
      rw [hresolved] at hshown
      obtain rfl := Except.ok.inj hshown
      intro hmem
      exact absurd ((isSqueezed_squeezeFrom false resolved).spaces '\n' hmem rfl) (by decide)

/-- An image is shown on one line. -/
theorem newline_not_mem_imageElement (attributes : Attributes) :
    '\n' ∉ imageElement attributes := by
  rw [imageElement]
  split
  · exact List.not_mem_nil
  · exact newline_not_mem_imageMarkdown _ _ _

/-- A link keeps its text and its target on one line. -/
theorem feedFree_asLink {target : Text} (htarget : '\n' ∉ target) {content : Layout}
    (h : content.FeedFree) : (content.asLink target).FeedFree := by
  have hshown : (if content.isBare then Layout.of target else content.core).FeedFree := by
    split
    · exact (Layout.feedFree_of_iff target).mpr htarget
    · exact h.core
  rw [Layout.asLink]
  split
  · exact hshown
  · refine (Layout.feedFree_append_iff ..).mpr ⟨(Layout.feedFree_append_iff ..).mpr
      ⟨⟨rfl, rfl, rfl⟩, hshown⟩, (Layout.feedFree_of_iff _).mpr ?_⟩
    have hurl := newline_not_mem_sanitize target
    simp [hurl]

/-- Nodes that keep their lines are shown without line feeds. -/
theorem feedFree_layoutAll {nodes : List Node} (h : ∀ node ∈ Node.preorderAll nodes, keepsLine node)
    (room : Nat) : (layoutAll room nodes).FeedFree := by
  induction nodes using Node.forest_induction generalizing room with
  | nil => rw [layoutAll]; exact rfl
  | text kind content others ih =>
    rw [layoutAll, layoutOf, Layout.feedFree_append_iff]
    refine ⟨?_, ih ((Node.forall_preorderAll_text ..).mp h).2 room⟩
    split
    · exact (Layout.feedFree_of_iff _).mpr (newline_not_mem_stringMarkdown content)
    · exact rfl
  | element name attributes kids others ihKids ih =>
    obtain ⟨hnode, hkids, hothers⟩ := (Node.forall_preorderAll_element ..).mp h
    rw [layoutAll, Layout.feedFree_append_iff]
    refine ⟨?_, ih hothers room⟩
    cases room with
    | zero => rw [layoutOf]; exact rfl
    | succ room =>
      have hcontent := ihKids hkids room
      rw [keepsLine] at hnode
      rw [layoutOf]
      cases hrole : Role.ofName name with
      | strong | emphasis => exact hcontent.core
      | code =>
        rw [hrole] at hnode
        exact ((Layout.feedFree_of_iff _).mpr (by simpa using hnode)).core
      | link =>
        rw [hrole] at hnode
        have htarget : '\n' ∉ attributes.text "href" := by simpa using hnode
        exact feedFree_asLink (fun hmem => htarget ((infix_trim _).subset hmem)) hcontent
      | image => exact (Layout.feedFree_of_iff _).mpr (newline_not_mem_imageElement attributes)
      | hidden => exact rfl
      | transparent => exact hcontent
      | heading | paragraph | lineBreak | preformatted | list | quote | rule | table =>
        rw [hrole] at hnode
        cases hnode

/-! ## Between the marks -/

/-- The marks in front of the text of a link and behind it. Without a safe target there are none. -/
def linkMarks (target : Text) : Text × Text :=
  let url := Url.sanitize target
  if url.isEmpty then ([], []) else (['['], ']' :: '(' :: url ++ [')'])

/-- The marks in front of the text inside a heading, an emphasis or a link, and those behind it. -/
def innerMarks? (name : Text) (attributes : Attributes) : Option (Text × Text) :=
  match Role.ofName name with
  | .heading level => some (['\n', '\n'] ++ List.replicate level '#' ++ [' '], ['\n', '\n'])
  | .strong => some (['*', '*'], ['*', '*'])
  | .emphasis => some (['*'], ['*'])
  | .link => some (linkMarks (trim (attributes.text "href")))
  | _ => none

/-- The layout of the text inside, from the layout of the content: a link without content shows its
target. -/
def innerLayout (name : Text) (attributes : Attributes) (content : Layout) : Layout :=
  if Role.ofName name = .link && content.isBare then .of (trim (attributes.text "href"))
  else content.core

/-- The text is nothing when the layout is bare. Otherwise it is a solid text between two marks,
with a blank line or on several lines as the layout says. -/
inductive Encloses (opening closing : Text) : Layout → Text → Prop where
  /-- There is nothing to stand between the marks. -/
  | nothing (breaks : Breaks) : Encloses opening closing (.bare breaks) []
  /-- A text stands between the marks. -/
  | inner {before inside after : Breaks} {text : Text} : IsSolid text →
      (HasBlankLine text ↔ 2 ≤ inside.feeds) →
      ((∃ c ∈ text, isBreak c = true) ↔ inside.any = true) →
      Encloses opening closing (.inked before inside after) (opening ++ text ++ closing)

/-- What stands between marks that are left out around nothing is enclosed as it is laid out. -/
theorem encloses_of_isTrimmed {opening closing text : Text} (h : IsTrimmed text) :
    Encloses opening closing (Layout.of text)
      (if text.isEmpty then [] else opening ++ text ++ closing) := by
  by_cases hnil : text = []
  · subst hnil
    exact .nothing 0
  · have hsolid := h.isSolid hnil
    obtain ⟨inside, hinside⟩ := Layout.of_isSolid hsolid
    rw [if_neg (by simpa using hnil), hinside]
    exact .inner hsolid (hsolid.hasBlankLine_iff hinside) (hsolid.isBreak_iff hinside)

/-- A frame that puts marks around a trimmed content, unless it is empty, encloses it. -/
theorem encloses_frame {opening closing : Text} {frame : Text → Text}
    (hframe : ∀ t, frame t = if t.isEmpty then [] else opening ++ t ++ closing) (content : Text) :
    Encloses opening closing (Layout.of content).core (frame (trim content)) := by
  rw [hframe, ← Layout.of_trim]
  exact encloses_of_isTrimmed (isTrimmed_trim content)

theorem headingMarkdown_eq (level : Nat) (t : Text) :
    headingMarkdown level t = if t.isEmpty then [] else
      ['\n', '\n'] ++ List.replicate level '#' ++ [' '] ++ t ++ ['\n', '\n'] := by
  rw [headingMarkdown]
  split
  · rfl
  · rw [block, if_neg (by simp)]
    simp

theorem linkMarkdown_eq (target t : Text) :
    linkMarkdown target t =
      if (firstFilled t target).isEmpty then []
      else (linkMarks target).1 ++ firstFilled t target ++ (linkMarks target).2 := by
  rw [linkMarkdown, linkMarks]
  cases hurl : Url.sanitize target with
  | nil => cases hshown : firstFilled t target <;> simp
  | cons c url =>
    have htarget : target ≠ [] := by
      rintro rfl
      cases hurl
    have hshown : firstFilled t target ≠ [] := by
      cases t with
      | nil => exact htarget
      | cons d t => exact List.cons_ne_nil d t
    simp [hshown]

/-- A link encloses its content, or its target where that is blank. -/
theorem encloses_linkMarkdown {target : Text} (htarget : IsTrimmed target) (content : Text) :
    Encloses (linkMarks target).1 (linkMarks target).2
      (if (Layout.of content).isBare then .of target else (Layout.of content).core)
      (linkMarkdown target (trim content)) := by
  rw [← layout_firstFilled_trim, linkMarkdown_eq]
  refine encloses_of_isTrimmed ?_
  rw [firstFilled]
  split
  · exact htarget
  · exact isTrimmed_trim content

/-- Elements with marks put them around their trimmed content, or around the target of a link
without content. -/
theorem shown_of_innerMarks {name opening closing : Text} {attributes : Attributes}
    (h : innerMarks? name attributes = some (opening, closing)) (kids : List Node) :
    ∃ frame, shown name attributes kids = .content frame ∧ ∀ content,
      Encloses opening closing (innerLayout name attributes (Layout.of content))
        (frame content) := by
  rw [innerMarks?] at h
  simp only [shown, innerLayout]
  cases hrole : Role.ofName name with
  | heading level =>
    rw [hrole] at h
    obtain ⟨rfl, rfl⟩ := Prod.mk.inj (Option.some.inj h)
    exact ⟨_, rfl, encloses_frame (headingMarkdown_eq level)⟩
  | strong | emphasis =>
    rw [hrole] at h
    obtain ⟨rfl, rfl⟩ := Prod.mk.inj (Option.some.inj h)
    exact ⟨_, rfl, encloses_frame fun t => rfl⟩
  | link =>
    rw [hrole] at h
    have hmarks := Option.some.inj h
    rw [show opening = _ from (congrArg Prod.fst hmarks).symm,
      show closing = _ from (congrArg Prod.snd hmarks).symm]
    exact ⟨_, rfl, encloses_linkMarkdown (isTrimmed_trim _)⟩
  | _ =>
    rw [hrole] at h
    cases h

namespace Converter

/-- An element that is shown by its children is refused as they are, and otherwise it frames what
they are converted to. -/
theorem nodeText_framed (c : Converter) (hlimit : 0 < c.limit) (depth : Nat) {name : Text}
    {attributes : Attributes} {kids : List Node} {frame : Text → Text}
    (hshown : shown name attributes kids = .content frame) :
    c.nodeText depth (.element name attributes kids) =
      (c.within.contentText depth kids).map frame := by
  rw [nodeText, contentText, convert, convertAll, outcome_finish, outcome_finish,
    c.room_eq_within hlimit, walk_element_succ, hshown]
  simp only [Marked.map]
  cases (walkAll c.within.room depth kids).marks.findSome? Mark.refused? <;> rfl

/-- A heading, an emphasis or a link is refused as its content is. Otherwise a solid text stands
between its marks, or there is nothing at all, and the layout that is computed from the nodes inside
says which: the text has a blank line exactly when two line feeds are left between neighbouring
solid characters, and it stands on one line exactly when no line break is. Strings, emphases, images
and links and code without line feeds in their raw texts leave no line feed. -/
theorem nodeText_encloses (c : Converter) (hlimit : 0 < c.limit) (depth : Nat)
    {name opening closing : Text} {attributes : Attributes}
    (hmarks : innerMarks? name attributes = some (opening, closing)) (kids : List Node) :
    let layout := innerLayout name attributes (layoutAll c.within.room kids)
    (∀ fault, c.within.contentText depth kids = .error fault →
        c.nodeText depth (.element name attributes kids) = .error fault) ∧
      (∀ content, c.within.contentText depth kids = .ok content →
        ∃ t, c.nodeText depth (.element name attributes kids) = .ok t ∧
          Encloses opening closing layout t) ∧
      ('\n' ∉ attributes.text "href" → (∀ node ∈ Node.preorderAll kids, keepsLine node) →
        layout.FeedFree) := by
  intro layout
  obtain ⟨frame, hshown, hencloses⟩ := shown_of_innerMarks hmarks kids
  rw [c.nodeText_framed hlimit depth hshown]
  refine ⟨fun fault hfault => by rw [hfault]; rfl, fun content hcontent => ?_,
    fun hhref hkeeps => ?_⟩
  · rw [hcontent]
    refine ⟨_, rfl, ?_⟩
    rw [contentText, convertAll, outcome_finish, unlessRefused_eq_ok_iff] at hcontent
    have hlayout := (laidOut kids c.within.room).content depth
    rw [← hcontent.2] at hlayout
    show Encloses opening closing (innerLayout name attributes (layoutAll _ kids)) _
    rw [← hlayout]
    exact hencloses content
  · show (innerLayout name attributes (layoutAll c.within.room kids)).FeedFree
    rw [innerLayout]
    split
    · exact (Layout.feedFree_of_iff _).mpr fun hmem => hhref ((infix_trim _).subset hmem)
    · exact (feedFree_layoutAll hkeeps _).core

/-- A break and an emphasis around a paragraph. -/
def brokenWords : List Node :=
  [.text .plain "a".toList, .element "br".toList [] [],
    .element "em".toList [] [.element "p".toList [] [.text .plain "b".toList]]]

/-- An emphasis around a string with a line feed. -/
def keptWords : List Node := [.element "em".toList [] [.text .plain "a\nb".toList]]

/-- The break stays inside the heading, but no empty line of the paragraph does. -/
theorem nodeText_encloses_brokenWords :
    (0 : Int) < 9 ∧ innerMarks? "h2".toList [] = some ("\n\n## ".toList, "\n\n".toList) ∧
      contentText ⟨8, false⟩ 0 brokenWords = .ok "a  \n*b*".toList ∧
      (∃ t, nodeText ⟨9, false⟩ 0 (.element "h2".toList [] brokenWords) = .ok t ∧
        t = "\n\n## a  \n*b*\n\n".toList ∧
        Encloses "\n\n## ".toList "\n\n".toList (.inked 0 ⟨1, true⟩ 0) t) ∧
      (∀ node ∈ Node.preorderAll keptWords, keepsLine node) ∧
      (innerLayout "h2".toList [] (layoutAll 8 keptWords)).FeedFree := by
  have hmarks : innerMarks? "h2".toList [] = some ("\n\n## ".toList, "\n\n".toList) := by decide
  have hcontent : contentText ⟨8, false⟩ 0 brokenWords = .ok "a  \n*b*".toList := by decide
  have hkeeps : ∀ node ∈ Node.preorderAll keptWords, keepsLine node := by decide
  obtain ⟨-, hencloses, -⟩ := nodeText_encloses ⟨9, false⟩ (by decide) 0 hmarks brokenWords
  obtain ⟨-, -, hfree⟩ := nodeText_encloses ⟨9, false⟩ (by decide) 0 hmarks keptWords
  obtain ⟨t, ht, htext⟩ := hencloses _ hcontent
  refine ⟨by decide, hmarks, hcontent, ⟨t, ht, ?_, htext⟩, hkeeps, hfree (by decide) hkeeps⟩
  exact (Except.ok.inj ht).symm.trans (by decide)

/-- Two breaks leave a blank line inside an emphasis, and one ends the line of a heading. -/
theorem nodeText_spansLines :
    let a := Node.text .plain "a".toList
    let b := Node.text .plain "b".toList
    let br := Node.element "br".toList [] []
    (∃ text, nodeText ⟨9, false⟩ 0 (.element "b".toList [] [a, br, br, b]) =
        .ok ("**".toList ++ text ++ "**".toList) ∧ HasBlankLine text) ∧
      ∃ text, nodeText ⟨9, false⟩ 0 (.element "h2".toList [] [a, br, b]) =
        .ok ("\n\n## ".toList ++ text ++ "\n\n".toList) ∧ '\n' ∈ text := by
  refine ⟨⟨"a  \n  \nb".toList, by decide, "a  ".toList, [' ', ' '], ['b'], rfl, ?_⟩,
    "a  \nb".toList, by decide, by decide⟩
  exact List.forall_mem_cons.mpr ⟨rfl, List.forall_mem_singleton.mpr rfl⟩

end Converter

end PageMarkdown.Markdown
