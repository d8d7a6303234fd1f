import PageMarkdown.Proofs.DepthLimit
import PageMarkdown.Proofs.Walk

/-!
# Transparent elements

An element without a role is shown as its children are. Replacing one by its
children changes no walk that cuts nothing, wherever the element stands: in
running text, in code, below a table or in a cell. Only a row and the head of a
table matter where they are found, and only lists and rows look at their own
children one by one. The children come one level nearer, which takes less room.
-/

namespace PageMarkdown.Markdown

open Text Html

/-! ## Unwrapping -/

/-- The name of an element that counts for nothing but its children. -/
structure IsTransparent (name : Text) : Prop where
  /-- It has no role. -/
  role : Role.ofName name = .transparent
  /-- It is no row. -/
  row : name ≠ "tr".toList
  /-- It is no head of a table. -/
  head : name ≠ "thead".toList

/-- The name of an element that looks for certain elements among its own children: a list for its
items, a row for its cells. -/
def picksChildren (name : Text) : Bool :=
  lower name = "ul".toList || lower name = "ol".toList || name = "tr".toList

/-- The second nodes are the first ones with one transparent element, among them or below them,
replaced by its children. The nodes are the children of an element with the given name; an element
whose children are picked keeps them. -/
inductive Unwraps : Text → List Node → List Node → Prop where
  /-- The element comes first. -/
  | here {parent name : Text} {attributes : Attributes} {kids others : List Node} :
      picksChildren parent = false → IsTransparent name →
      Unwraps parent (.element name attributes kids :: others) (kids ++ others)
  /-- The element comes behind the first node. -/
  | behind {parent : Text} {node : Node} {others others' : List Node} :
      Unwraps parent others others' → Unwraps parent (node :: others) (node :: others')
  /-- The element lies below the first node. -/
  | inside {parent name : Text} {attributes : Attributes} {kids kids' others : List Node} :
      Unwraps name kids kids' →
      Unwraps parent (.element name attributes kids :: others)
        (.element name attributes kids' :: others)

theorem picksChildren_of_list {name : Text} {ordered : Bool}
    (h : Role.ofName name = .list ordered) : picksChildren name = true := by
  have hlists : ∀ entry ∈ Role.known, ∀ ordered, entry.2 = .list ordered →
      entry.1 = "ul" ∨ entry.1 = "ol" := by
    simp [Role.known]
  obtain ⟨entry, hentry, hname, hrole⟩ := Role.exists_known h Role.noConfusion
  rcases hlists entry hentry ordered hrole with hlist | hlist
  · simp [picksChildren, ← hname, hlist]
  · simp [picksChildren, ← hname, hlist]

theorem picksChildren_row : picksChildren "tr".toList = true := by decide

/-- A transparent element is no table. -/
theorem IsTransparent.ne_table {name : Text} (h : IsTransparent name) : name ≠ "table".toList := by
  rintro rfl
  exact absurd h.role (by decide)

/-! ## Walks over unwrapped nodes -/

/-- Unless something is cut in the first nodes, every walk over the second ones finds the same. The
children of a list or of a row are looked at only where they are the children of one. -/
structure UnwrappedWalks (parent : Text) (nodes nodes' : List Node) : Prop where
  /-- As running text. -/
  content (room depth : Nat) : (walkAll room depth nodes).Final (walkAll room depth nodes')
  /-- As the children of a list. -/
  items (room depth : Nat) : picksChildren parent = true →
    (walkItems room depth nodes).Final (walkItems room depth nodes')
  /-- Below a table. -/
  rows (room : Nat) (inHead : Bool) :
    (walkRows room inHead nodes).Final (walkRows room inHead nodes')
  /-- As the children of a row. -/
  cells (room : Nat) : picksChildren parent = true →
    (walkCells room nodes).Final (walkCells room nodes')
  /-- As the text of an element around them. -/
  innerText : Node.innerText nodes' = Node.innerText nodes

namespace UnwrappedWalks

variable {parent name : Text} {kids kids' others others' : List Node}

/-- The children of a transparent element have more room without it. -/
theorem here (hparent : picksChildren parent = false) (hname : IsTransparent name)
    (attributes : Attributes) (kids others : List Node) :
    UnwrappedWalks parent (.element name attributes kids :: others) (kids ++ others) := by
  constructor
  · intro room depth
    rw [walkAll, walkAll_append]
    refine Marked.Final.append ?_ (.refl _)
    cases room with
    | zero =>
      intro hcut
      simp [walk_element_zero, Mark.isCut] at hcut
    | succ room =>
      have hwalk : walk (room + 1) depth (.element name attributes kids) =
          walkAll room depth kids := by
        rw [walk_element_succ, shown, hname.role]
        rfl
      rw [hwalk]
      exact (finalWalks (Nat.le_succ room) kids).content depth
  · intro room depth hpicks
    rw [hparent] at hpicks
    cases hpicks
  · intro room inHead
    have hrows : walkRows room inHead (.element name attributes kids :: others) =
        walkRows room inHead (kids ++ others) := by
      rw [walkRows, walkRows_append, if_neg hname.ne_table, if_neg hname.row,
        Marked.clear_append, decide_eq_false hname.head, Bool.or_false]
    rw [hrows]
    exact .refl _
  · intro room hpicks
    rw [hparent] at hpicks
    cases hpicks
  · rw [Node.innerText_element, Node.innerText_append]

/-- What comes first is walked as before. -/
theorem behind (h : UnwrappedWalks parent others others') (node : Node) :
    UnwrappedWalks parent (node :: others) (node :: others') := by
  constructor
  · intro room depth
    rw [walkAll, walkAll]
    exact Marked.Final.append (.refl _) (h.content room depth)
  · intro room depth hpicks
    cases node with
    | text kind content =>
      rw [walkItems, walkItems]
      exact h.items room depth hpicks
    | element name attributes kids =>
      rw [walkItems, walkItems]
      split
      · exact Marked.Final.append (.refl _) (h.items room depth hpicks)
      · exact h.items room depth hpicks
  · intro room inHead
    cases node with
    | text kind content =>
      rw [walkRows, walkRows]
      exact h.rows room inHead
    | element name attributes kids =>
      rw [walkRows, walkRows]
      exact Marked.Final.append (.refl _) (h.rows room inHead)
  · intro room hpicks
    cases node with
    | text kind content =>
      rw [walkCells, walkCells]
      exact h.cells room hpicks
    | element name attributes kids =>
      rw [walkCells, walkCells]
      dsimp only
      split
      · intro hcut
        rw [List.any_append, Bool.or_eq_false_iff] at hcut
        rw [h.cells room hpicks hcut.2]
      · exact h.cells room hpicks
  · cases node with
    | text kind content => rw [Node.innerText_text, Node.innerText_text, h.innerText]
    | element name attributes kids =>
      rw [Node.innerText_element, Node.innerText_element, h.innerText]

/-- An element is shown as before when its children are walked as before. -/
theorem walk_element (hkids : UnwrappedWalks name kids kids') (attributes : Attributes)
    (room depth : Nat) :
    (walk room depth (.element name attributes kids)).Final
      (walk room depth (.element name attributes kids')) := by
  cases room with
  | zero =>
    rw [walk_element_zero, walk_element_zero]
    exact .refl _
  | succ room =>
    have hshown : shown name attributes kids' = shown name attributes kids := by
      rw [shown, shown, hkids.innerText]
    rw [walk_element_succ, walk_element_succ, hshown]
    cases hway : shown name attributes kids with
    | fixed t => exact .refl _
    | content frame => exact (hkids.content room depth).map frame
    | items ordered =>
      have hlist := picksChildren_of_list (role_of_items hway)
      exact (hkids.items room depth hlist).map (renderList ordered depth)
    | rows =>
      intro hcut
      rw [any_marks_tableMarkdown fun _ => rfl] at hcut
      have hrows : (tableRowsOf room name kids).Final (tableRowsOf room name kids') := by
        rw [tableRowsOf, tableRowsOf]
        split
        · exact hkids.rows room false
        · exact .refl _
      rw [hrows hcut]

/-- What lies below the first node is walked as its children are. -/
theorem inside (hkids : UnwrappedWalks name kids kids') (attributes : Attributes)
    (others : List Node) :
    UnwrappedWalks parent (.element name attributes kids :: others)
      (.element name attributes kids' :: others) := by
  constructor
  · intro room depth
    rw [walkAll, walkAll]
    exact (hkids.walk_element attributes room depth).append (.refl _)
  · intro room depth _
    rw [walkItems, walkItems]
    split
    · exact ((hkids.content room (depth + 1)).map _).append (.refl _)
    · exact .refl _
  · intro room inHead
    rw [walkRows, walkRows]
    refine Marked.Final.append ?_ (.refl _)
    split
    · exact .refl _
    · refine Marked.Final.append ?_ (hkids.rows room _)
      split
      · rename_i hrow
        have hpicks : picksChildren name = true := hrow ▸ picksChildren_row
        exact (hkids.cells room hpicks).map _
      · exact .refl _
  · intro room _
    rw [walkCells, walkCells]
    dsimp only
    split
    · intro hcut
      rw [List.any_append, Bool.or_eq_false_iff] at hcut
      rw [hkids.content room 0 hcut.1]
    · exact .refl _
  · rw [Node.innerText_element, Node.innerText_element, hkids.innerText]

end UnwrappedWalks

/-- Walks that cut nothing find the same after an element has been unwrapped. -/
theorem Unwraps.walks {parent : Text} {nodes nodes' : List Node}
    (h : Unwraps parent nodes nodes') : UnwrappedWalks parent nodes nodes' := by
  induction h with
  | here hparent hname => exact .here hparent hname _ _ _
  | behind _ ih => exact ih.behind _
  | inside _ ih => exact ih.inside _ _

/-! ## Documents -/

/-- Wherever an element without a role stands that is neither a row nor the head of a table, and is
not among the children of a list or of a row, a document that is converted without a cut is
converted in the same way, with the same Markdown and the same events, when its children stand for
it. -/
theorem convertDocument_unwraps {parent : Text} {nodes nodes' : List Node}
    (h : Unwraps parent nodes nodes') (c : Converter) :
    ((walkAll c.room 0 nodes).marks.any Mark.isCut = false →
      c.convertDocument nodes' = c.convertDocument nodes) ∧
    ∀ t c', (c.convertDocument nodes).outcome = .ok (t, c') → c'.truncated = false →
      c.convertDocument nodes' = c.convertDocument nodes := by
  have hsame : (walkAll c.room 0 nodes).marks.any Mark.isCut = false →
      c.convertDocument nodes' = c.convertDocument nodes := by
    intro hcut
    rw [Converter.convertDocument, Converter.convertDocument, h.walks.content c.room 0 hcut]
  refine ⟨hsame, fun t c' hrun huncut => hsame ?_⟩
  obtain ⟨-, -, rfl⟩ := (Converter.convertDocument_outcome_iff c c' nodes t).mp hrun
  exact (Bool.or_eq_false_iff.mp huncut).2

/-- A row with a span inside a cell. -/
def spannedRow : Node :=
  .element "tr".toList [] [.element "td".toList [] [.element "span".toList []
    [.element "em".toList [] [.text .plain "a".toList], .text .plain " b".toList]]]

/-- A table with the body that it needs not have is converted like one without it. -/
theorem convertDocument_unwraps_tableBody :
    let nodes : List Node := [.element "table".toList [] [.element "tbody".toList [] [spannedRow]]]
    let nodes' : List Node := [.element "table".toList [] [spannedRow]]
    let c : Converter := ⟨3, false⟩
    Unwraps "body".toList nodes nodes' ∧
      (walkAll c.room 0 nodes).marks.any Mark.isCut = false ∧
      (c.convertDocument nodes).outcome = .ok ("| *a* b |\n| --- |".toList, c) ∧
      c.truncated = false ∧ c.convertDocument nodes' = c.convertDocument nodes := by
  have hname : IsTransparent "tbody".toList := ⟨by decide, by decide, by decide⟩
  have hunwraps : Unwraps "body".toList
      [.element "table".toList [] [.element "tbody".toList [] [spannedRow]]]
      [.element "table".toList [] [spannedRow]] :=
    .inside (.here (by decide) hname)
  have hrun : ((⟨3, false⟩ : Converter).convertDocument
      [.element "table".toList [] [.element "tbody".toList [] [spannedRow]]]).outcome =
        .ok ("| *a* b |\n| --- |".toList, ⟨3, false⟩) :=
    (Converter.convertDocument_outcome_iff ..).mpr ⟨by decide, by decide, by decide⟩
  exact ⟨hunwraps, by decide, hrun, rfl, (convertDocument_unwraps hunwraps _).2 _ _ hrun rfl⟩

end PageMarkdown.Markdown
