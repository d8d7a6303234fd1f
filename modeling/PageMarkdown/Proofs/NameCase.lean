import PageMarkdown.Proofs.Element
import PageMarkdown.Proofs.Walk

/-!
# The case of names

The role of an element, the items of a list and the cells of a row are found by
names in lower case. The rows of a table are not: only an element spelled `table`
is searched for rows, a row is spelled `tr`, and the head that it may stand in is
spelled `thead`. Where these spellings are kept, the case of all other names
changes no walk, but for the name by which an element that was cut is told.
-/

namespace PageMarkdown.Markdown

open Text Html

/-! ## Results without the names of cut elements -/

/-- The mark without the name of an element that was cut. -/
def Mark.unnamed : Mark → Mark
  | cut _ => cut []
  | mark => mark

/-- The result without the names of the elements that were cut. -/
def Marked.unnamed {α : Type} (m : Marked α) : Marked α := ⟨m.value, m.marks.map Mark.unnamed⟩

namespace Marked

variable {α β : Type}

theorem unnamed_eq_iff (m n : Marked α) :
    m.unnamed = n.unnamed ↔
      m.value = n.value ∧ m.marks.map Mark.unnamed = n.marks.map Mark.unnamed := by
  rw [unnamed, unnamed, mk.injEq]

theorem unnamed_map (m : Marked α) (f : α → β) : (m.map f).unnamed = m.unnamed.map f := rfl

theorem unnamed_append (m n : Marked (List α)) : (m ++ n).unnamed = m.unnamed ++ n.unnamed := by
  show (⟨m.value ++ n.value, (m.marks ++ n.marks).map Mark.unnamed⟩ : Marked (List α)) = _
  rw [List.map_append]
  rfl

theorem unnamed_tableMarkdown (rows : Marked (List TableRow)) :
    (tableMarkdown rows).unnamed = tableMarkdown rows.unnamed := by
  rw [tableMarkdown, tableMarkdown, unnamed, List.map_append]
  congr 2
  show List.map Mark.unnamed (if isHollow rows.value then _ else _) =
    if isHollow rows.value then _ else _
  split <;> rfl

theorem unnamed_rowOf (inHead : Bool) (cells : Marked (List Text × Bool)) :
    (rowOf inHead cells).unnamed = rowOf inHead cells.unnamed := rfl

end Marked

/-- How a finished walk ends does not depend on the names of the elements that were cut. -/
theorem Converter.outcome_finish_unnamed {α : Type} (c : Converter) (m : Marked α) :
    (c.finish m.unnamed).outcome = (c.finish m).outcome := by
  have hrefused : ∀ marks : List Mark,
      (marks.map Mark.unnamed).findSome? Mark.refused? = marks.findSome? Mark.refused? := by
    intro marks
    rw [List.findSome?_map]
    exact congrArg (marks.findSome? ·) (funext fun mark => by cases mark <;> rfl)
  have hcut : ∀ marks : List Mark,
      (marks.map Mark.unnamed).any Mark.isCut = marks.any Mark.isCut := by
    intro marks
    rw [List.any_map]
    exact congrArg (marks.any ·) (funext fun mark => by cases mark <;> rfl)
  rw [finish, finish, outcome_tellMarks_andThen, outcome_tellMarks_andThen, Marked.unnamed,
    hrefused, hcut]

/-! ## Names in another case -/

/-- The names are the same but for case, and they are spelled the same where spelling counts: for
tables everywhere, and for rows and heads of tables below a table. -/
structure SameName (inTable : Bool) (name name' : Text) : Prop where
  /-- They are the same in lower case. -/
  folded : lower name' = lower name
  /-- Both are spelled like a table, or none of them is. -/
  table : name' = "table".toList ↔ name = "table".toList
  /-- Below a table both are spelled like a row, or none of them is. -/
  row : inTable = true → (name' = "tr".toList ↔ name = "tr".toList)
  /-- Below a table both are spelled like the head of a table, or none of them is. -/
  head : inTable = true → (name' = "thead".toList ↔ name = "thead".toList)

instance (inTable : Bool) (name name' : Text) : Decidable (SameName inTable name name') :=
  decidable_of_iff
    (lower name' = lower name ∧ (name' = "table".toList ↔ name = "table".toList) ∧
      (inTable = true → (name' = "tr".toList ↔ name = "tr".toList)) ∧
      (inTable = true → (name' = "thead".toList ↔ name = "thead".toList)))
    ⟨fun ⟨folded, table, row, head⟩ => ⟨folded, table, row, head⟩,
      fun h => ⟨h.folded, h.table, h.row, h.head⟩⟩

/-- The second nodes are the first ones with the names of elements in another case. The flag says
that the nodes stand below a table. -/
inductive Recased : Bool → List Node → List Node → Prop where
  /-- No nodes. -/
  | nil {inTable : Bool} : Recased inTable [] []
  /-- The same string, and nodes behind it. -/
  | text {inTable : Bool} (kind : StringKind) (content : Text) {others others' : List Node}
      (hothers : Recased inTable others others') :
      Recased inTable (.text kind content :: others) (.text kind content :: others')
  /-- An element with its name in another case, and nodes behind it. -/
  | element {inTable : Bool} {name name' : Text} (attributes : Attributes)
      {kids kids' others others' : List Node} (hname : SameName inTable name name')
      (hkids : Recased (inTable || name = "table".toList) kids kids')
      (hothers : Recased inTable others others') :
      Recased inTable (.element name attributes kids :: others)
        (.element name' attributes kids' :: others')

/-- The role of an element does not depend on the case of its name. -/
theorem SameName.role {inTable : Bool} {name name' : Text} (h : SameName inTable name name') :
    Role.ofName name' = Role.ofName name := by
  rw [Role.ofName, Role.ofName, h.folded]

/-- Walks over nodes with names in another case find the same but for the names of cut elements.
Rows are looked for below tables only. -/
structure RecasedWalks (inTable : Bool) (nodes nodes' : List Node) : Prop where
  /-- As running text. -/
  content (room depth : Nat) :
    (walkAll room depth nodes').unnamed = (walkAll room depth nodes).unnamed
  /-- As the children of a list. -/
  items (room depth : Nat) :
    (walkItems room depth nodes').unnamed = (walkItems room depth nodes).unnamed
  /-- Below a table. -/
  rows (room : Nat) (inHead : Bool) : inTable = true →
    (walkRows room inHead nodes').unnamed = (walkRows room inHead nodes).unnamed
  /-- As the children of a row. -/
  cells (room : Nat) : (walkCells room nodes').unnamed = (walkCells room nodes).unnamed
  /-- As the text of an element around them. -/
  innerText : Node.innerText nodes' = Node.innerText nodes

namespace RecasedWalks

variable {inTable : Bool} {name name' : Text} {kids kids' others others' : List Node}

theorem nil : RecasedWalks inTable [] [] :=
  ⟨fun _ _ => rfl, fun _ _ => rfl, fun _ _ _ => rfl, fun _ => rfl, rfl⟩

/-- A string comes first in both. -/
theorem text (h : RecasedWalks inTable others others') (kind : StringKind) (content : Text) :
    RecasedWalks inTable (.text kind content :: others) (.text kind content :: others') := by
  constructor
  · intro room depth
    rw [walkAll, walkAll, Marked.unnamed_append, Marked.unnamed_append, h.content]
  · intro room depth
    rw [walkItems, walkItems, h.items]
  · intro room inHead hbelow
    rw [walkRows, walkRows, h.rows room inHead hbelow]
  · intro room
    rw [walkCells, walkCells, h.cells]
  · rw [Node.innerText_text, Node.innerText_text, h.innerText]

/-- An element is shown in the same way when its children are walked alike. -/
theorem walk_element (hname : SameName inTable name name')
    (hkids : RecasedWalks (inTable || name = "table".toList) kids kids') (attributes : Attributes)
    (room depth : Nat) :
    (walk room depth (.element name' attributes kids')).unnamed =
      (walk room depth (.element name attributes kids)).unnamed := by
  cases room with
  | zero =>
    rw [walk_element_zero, walk_element_zero]
    rfl
  | succ room =>
    have hshown : shown name' attributes kids' = shown name attributes kids := by
      rw [shown, shown, hname.role, hkids.innerText]
    rw [walk_element_succ, walk_element_succ, hshown]
    cases shown name attributes kids with
    | fixed t => rfl
    | content frame =>
      dsimp only
      rw [Marked.unnamed_map, Marked.unnamed_map, hkids.content]
    | items ordered =>
      dsimp only
      rw [Marked.unnamed_map, Marked.unnamed_map, hkids.items]
    | rows =>
      dsimp only
      rw [Marked.unnamed_tableMarkdown, Marked.unnamed_tableMarkdown, tableRowsOf, tableRowsOf]
      congr 1
      by_cases htable : name = "table".toList
      · rw [if_pos (hname.table.mpr htable), if_pos htable,
          hkids.rows room false (by simp [htable])]
      · rw [if_neg (mt hname.table.mp htable), if_neg htable]

/-- An element comes first in both, with its name in another case. -/
theorem element (hname : SameName inTable name name')
    (hkids : RecasedWalks (inTable || name = "table".toList) kids kids')
    (hothers : RecasedWalks inTable others others') (attributes : Attributes) :
    RecasedWalks inTable (.element name attributes kids :: others)
      (.element name' attributes kids' :: others') := by
  constructor
  · intro room depth
    rw [walkAll, walkAll, Marked.unnamed_append, Marked.unnamed_append, hothers.content,
      walk_element hname hkids]
  · intro room depth
    rw [walkItems, walkItems, hname.folded]
    split
    · rw [Marked.unnamed_append, Marked.unnamed_append, hothers.items, Marked.unnamed_map,
        Marked.unnamed_map, hkids.content]
    · exact hothers.items room depth
  · intro room inHead hbelow
    have hrow := hname.row hbelow
    have hhead := hname.head hbelow
    rw [walkRows, walkRows, Marked.unnamed_append, Marked.unnamed_append,
      hothers.rows room inHead hbelow]
    simp only [hname.table, hrow, hhead]
    congr 1
    split
    · rfl
    · rw [Marked.unnamed_append, Marked.unnamed_append,
        hkids.rows room _ (by rw [hbelow, Bool.true_or])]
      congr 1
      split
      · rw [Marked.unnamed_rowOf, Marked.unnamed_rowOf, hkids.cells]
      · rfl
  · intro room
    rw [walkCells, walkCells, hname.folded]
    dsimp only
    split
    · obtain ⟨hcontent, hmarks⟩ := (Marked.unnamed_eq_iff ..).mp (hkids.content room 0)
      obtain ⟨hcells, hothersMarks⟩ := (Marked.unnamed_eq_iff ..).mp (hothers.cells room)
      rw [Marked.unnamed_eq_iff]
      dsimp only
      rw [List.map_append, List.map_append, hcontent, hmarks, hcells, hothersMarks]
      exact ⟨rfl, rfl⟩
    · exact hothers.cells room
  · rw [Node.innerText_element, Node.innerText_element, hkids.innerText, hothers.innerText]

end RecasedWalks

/-- Nodes with names in another case are walked alike. -/
theorem Recased.walks {inTable : Bool} {nodes nodes' : List Node}
    (h : Recased inTable nodes nodes') : RecasedWalks inTable nodes nodes' := by
  induction h with
  | nil => exact .nil
  | text kind content _ ih => exact ih.text kind content
  | element attributes hname _ _ ihKids ih => exact .element hname ihKids ih attributes

/-! ## Documents -/

/-- A table shows nothing in another spelling, and where no element in it is spelled like a row. -/
theorem Converter.nodeText_table_withoutRows (c : Converter) (depth : Nat) {name : Text}
    (attributes : Attributes) {kids : List Node} (hname : lower name = "table".toList)
    (hrows : name ≠ "table".toList ∨
      ∀ node ∈ Node.preorderAll kids, node.isNamed "tr".toList = false) :
    c.nodeText depth (.element name attributes kids) = .ok [] := by
  rw [nodeText, convert, outcome_finish]
  cases c.room with
  | zero =>
    rw [walk_element_zero]
    rfl
  | succ room =>
    have hrole : Role.ofName name = .table := by
      rw [Role.ofName, hname]
      decide
    have hfound : tableRowsOf room name kids = .clear [] := by
      rw [tableRowsOf]
      split
      · rename_i htable
        exact walkRows_withoutRows room false kids (hrows.resolve_left (not_not_intro htable))
      · rfl
    rw [walk_element_succ, shown, hrole]
    dsimp only
    rw [hfound]
    rfl

/-- The case of names does not matter but for tables, rows and heads: where those are spelled alike,
conversion ends alike, with the same Markdown, the same converter or the same fault. A table in
another spelling, or one whose rows are in another spelling, shows nothing. -/
theorem Converter.convertDocument_recased (c : Converter) {nodes nodes' : List Node}
    (h : Recased false nodes nodes') :
    (c.convertDocument nodes').outcome = (c.convertDocument nodes).outcome ∧
      ∀ (depth : Nat) (name : Text) (attributes : Attributes) (kids : List Node),
        lower name = "table".toList →
        (name ≠ "table".toList ∨
          ∀ node ∈ Node.preorderAll kids, node.isNamed "tr".toList = false) →
        c.nodeText depth (.element name attributes kids) = .ok [] := by
  constructor
  · have hwalk := congrArg (Marked.map settle) (h.walks.content c.room 0)
    rw [← Marked.unnamed_map, ← Marked.unnamed_map] at hwalk
    rw [convertDocument, convertDocument, ← outcome_finish_unnamed, hwalk, outcome_finish_unnamed]
  · intro depth name attributes kids hname hrows
    exact c.nodeText_table_withoutRows depth attributes hname hrows

/-- A heading, a list and a table with a head. -/
def plainNames : List Node :=
  [.element "h2".toList [] [.text .plain "a".toList],
    .element "ul".toList [] [.element "li".toList [] [.element "b".toList [] [.text .plain ['b']]]],
    .element "table".toList [] [.element "thead".toList [] [.element "tr".toList []
      [.element "td".toList [] [.element "i".toList [] [.text .plain "c".toList]]]]]]

/-- The same with all names in another case but those of the table, its head and its row. -/
def mixedNames : List Node :=
  [.element "H2".toList [] [.text .plain "a".toList],
    .element "uL".toList [] [.element "Li".toList [] [.element "B".toList [] [.text .plain ['b']]]],
    .element "table".toList [] [.element "thead".toList [] [.element "tr".toList []
      [.element "TD".toList [] [.element "I".toList [] [.text .plain "c".toList]]]]]]

theorem Converter.convertDocument_recased_mixedNames :
    Recased false plainNames mixedNames ∧
      (convertDocument ⟨2, false⟩ plainNames).outcome =
        .ok ("## a\n\n- **b**\n\n| *c* |\n| --- |".toList, ⟨2, false⟩) ∧
      (convertDocument ⟨2, false⟩ mixedNames).outcome =
        .ok ("## a\n\n- **b**\n\n| *c* |\n| --- |".toList, ⟨2, false⟩) ∧
      nodeText ⟨2, false⟩ 0 (.element "TABLE".toList [] plainNames) = .ok [] := by
  have hitem : Recased false
      [.element "li".toList [] [.element "b".toList [] [.text .plain ['b']]]]
      [.element "Li".toList [] [.element "B".toList [] [.text .plain ['b']]]] :=
    .element [] (by decide) (.element [] (by decide) (.text _ _ .nil) .nil) .nil
  have hcell : Recased true
      [.element "td".toList [] [.element "i".toList [] [.text .plain "c".toList]]]
      [.element "TD".toList [] [.element "I".toList [] [.text .plain "c".toList]]] :=
    .element [] (by decide) (.element [] (by decide) (.text _ _ .nil) .nil) .nil
  have h : Recased false plainNames mixedNames :=
    .element [] (by decide) (.text _ _ .nil)
      (.element [] (by decide) hitem
        (.element [] (by decide)
          (.element [] (by decide) (.element [] (by decide) hcell .nil) .nil) .nil))
  obtain ⟨hsame, hnothing⟩ := convertDocument_recased ⟨2, false⟩ h
  have hplain : (convertDocument ⟨2, false⟩ plainNames).outcome =
      .ok ("## a\n\n- **b**\n\n| *c* |\n| --- |".toList, ⟨2, false⟩) :=
    (convertDocument_outcome_iff ..).mpr ⟨by decide, by decide +kernel, by decide⟩
  exact ⟨h, hplain, hsame.trans hplain, hnothing 0 _ [] plainNames (by decide) (.inl (by decide))⟩

/-- A table with one row of the given name. -/
def tableWithRow (row : String) : List Node :=
  [.element "table".toList [] [.element row.toList []
    [.element "td".toList [] [.text .plain ['x']]]]]

/-- The case of a name matters: a row in capital letters is no row of its table. -/
theorem Converter.convertDocument_loses_capitalRow :
    lower "TR".toList = lower "tr".toList ∧
      (convertDocument ⟨100, false⟩ (tableWithRow "tr")).outcome =
        .ok ("| x |\n| --- |".toList, ⟨100, false⟩) ∧
      (convertDocument ⟨100, false⟩ (tableWithRow "TR")).outcome = .ok ([], ⟨100, false⟩) := by
  refine ⟨by decide, (convertDocument_outcome_iff ..).mpr ?_,
    (convertDocument_outcome_iff ..).mpr ?_⟩ <;>
    exact ⟨by decide, by decide +kernel, by decide⟩

end PageMarkdown.Markdown
