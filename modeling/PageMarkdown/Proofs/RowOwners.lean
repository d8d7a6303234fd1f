import Mathlib.Data.List.Nodup
import PageMarkdown.Html.RowPlaces
import PageMarkdown.Markdown.Walk
import PageMarkdown.Proofs.Html.Site
import PageMarkdown.Proofs.Marks

/-!
# Owners of rows

A row belongs to the nearest table around it, and stands in the head of that table
when a `thead` comes before the table on the way outward. Going down from a table,
the walk finds exactly the rows of which the table is the owner. So all tables of a
document together have each row with cells once, and none that no table is around.
-/

namespace PageMarkdown.Markdown

open Text Html

/-! ## Looking outward -/

/-- The path of the nearest table among the elements around a node. -/
def nearestTable (around : List Ancestor) : Option NodePath :=
  (around.find? fun a => a.name = "table".toList).map (·.path)

/-- A table head comes before the nearest table among the elements around a node. -/
def headBefore (around : List Ancestor) : Bool :=
  (around.takeWhile fun a => a.name != "table".toList).any fun a => a.name = "thead".toList

/-- The name of a cell, whatever its case. -/
def isCellName (name : Text) : Bool := lower name = "th".toList || lower name = "td".toList

/-- A cell of a table. -/
def isCell : Node → Bool
  | .text _ _ => false
  | .element name _ _ => isCellName name

/-- A row with at least one cell. -/
def isFilledRow : Node → Bool
  | .text _ _ => false
  | .element name _ kids => name = "tr".toList && kids.any isCell

/-- The site is a row with cells whose nearest table has the path. -/
def belongsTo (owner : NodePath) (s : Site) : Bool :=
  isFilledRow s.node && nearestTable s.around = some owner

/-- The table row of a site. -/
def rowAt (room : Nat) (s : Site) : TableRow :=
  let cells := (walkCells room s.node.children).value
  ⟨cells.1, cells.2, headBefore s.around⟩

/-- The site is a table. -/
def isTable (s : Site) : Bool := s.node.isNamed "table".toList

/-- The site is a row, with cells or without. -/
def isTableRow (s : Site) : Bool := s.node.isNamed "tr".toList

/-- The tables of a document, in document order. -/
def tables (doc : List Node) : List Site := (sites doc).filter isTable

/-- The rows with cells that have a table as their owner, in document order. -/
def rowsOf (doc : List Node) (table : Site) : List Site :=
  (sites doc).filter (belongsTo table.path)

theorem nearestTable_table {name : Text} (h : name = "table".toList) (path : NodePath)
    (around : List Ancestor) : nearestTable (⟨path, name⟩ :: around) = some path := by
  simp [nearestTable, h]

theorem nearestTable_other {name : Text} (h : name ≠ "table".toList) (path : NodePath)
    (around : List Ancestor) :
    nearestTable (⟨path, name⟩ :: around) = nearestTable around := by
  unfold nearestTable
  rw [List.find?_cons_of_neg (by simpa using h)]

theorem headBefore_table {name : Text} (h : name = "table".toList) (path : NodePath)
    (around : List Ancestor) : headBefore (⟨path, name⟩ :: around) = false := by
  simp [headBefore, h]

theorem headBefore_other {name : Text} (h : name ≠ "table".toList) (path : NodePath)
    (around : List Ancestor) :
    headBefore (⟨path, name⟩ :: around) = (headBefore around || name = "thead".toList) := by
  unfold headBefore
  rw [List.takeWhile_cons_of_pos (by simpa using h), List.any_cons, Bool.or_comm]

/-- What the nearest table is a table of. -/
theorem exists_of_nearestTable {around : List Ancestor} {path : NodePath}
    (h : nearestTable around = some path) :
    ∃ inner a outer, around = inner ++ a :: outer ∧ a.path = path ∧ a.name = "table".toList := by
  obtain ⟨a, hfound, rfl⟩ := Option.map_eq_some_iff.mp h
  obtain ⟨hname, inner, outer, haround, -⟩ := List.find?_eq_some_iff_append.mp hfound
  exact ⟨inner, a, outer, haround, rfl, by simpa using hname⟩

/-- Inside a table the nearest table is no shorter a way off than the table itself. -/
theorem le_length_nearestTable {path : NodePath} {name : Text} (hname : name = "table".toList)
    {around : List Ancestor} {s : Site} {i : Nat}
    (h : s.Within (i :: path) (⟨path, name⟩ :: around)) {owner : NodePath}
    (howner : nearestTable s.around = some owner) : path.length ≤ owner.length := by
  obtain ⟨inner, haround, hinner⟩ := h.chain
  rw [haround, nearestTable, List.find?_append] at howner
  cases hfind : inner.find? fun a => a.name = "table".toList with
  | none =>
    rw [hfind, Option.none_or] at howner
    exact (Option.some.inj ((nearestTable_table hname path around).symm.trans howner) ▸
      Nat.le_refl _)
  | some a =>
    rw [hfind, Option.some_or, Option.map_some] at howner
    have hlength := (hinner a (List.mem_of_find?_eq_some hfind)).length_le
    rw [← Option.some.inj howner]
    simp only [List.length_cons] at hlength
    omega

/-! ## Going down -/

/-- A row has cells when one of its children is a cell. -/
theorem isEmpty_walkCells (room : Nat) (nodes : List Node) :
    (walkCells room nodes).value.1.isEmpty = !nodes.any isCell := by
  induction nodes with
  | nil => rfl
  | cons node others ih =>
    cases node with
    | text kind content => rwa [walkCells, List.any_cons, isCell, Bool.false_or]
    | element name attributes kids =>
      rw [walkCells, List.any_cons, isCell, isCellName]
      dsimp only
      split
      · rename_i hcell
        rw [hcell, Bool.true_or]
        rfl
      · rename_i hcell
        rw [Bool.eq_false_iff.mpr hcell, Bool.false_or]
        exact ih

/-- The rows that an element and the nodes below it have, and those of its siblings. -/
theorem value_walkRows_element (room : Nat) (inHead : Bool) (name : Text)
    (attributes : Attributes) (kids others : List Node) :
    (walkRows room inHead (.element name attributes kids :: others)).value =
      ((if name = "table".toList then []
        else
          (if name = "tr".toList then (rowOf inHead (walkCells room kids)).value else []) ++
            (walkRows room (inHead || name = "thead".toList) kids).value)) ++
        (walkRows room inHead others).value := by
  rw [walkRows, Marked.value_append]
  by_cases htable : name = "table".toList
  · rw [if_pos htable, if_pos htable]
    rfl
  · rw [if_neg htable, if_neg htable, Marked.value_append]
    by_cases hrow : name = "tr".toList
    · rw [if_pos hrow, if_pos hrow]
    · rw [if_neg hrow, if_neg hrow]
      rfl

/-- A row element gives one row if it has cells. -/
theorem value_rowOf (room : Nat) (path : NodePath) (around : List Ancestor) (name : Text)
    (attributes : Attributes) (kids : List Node) :
    (if name = "tr".toList then (rowOf (headBefore around) (walkCells room kids)).value else []) =
      if isFilledRow (.element name attributes kids) then
        [rowAt room ⟨path, around, .element name attributes kids⟩] else [] := by
  by_cases hrow : name = "tr".toList
  · rw [if_pos hrow, rowOf, Marked.map, isEmpty_walkCells, isFilledRow, decide_eq_true hrow,
      Bool.true_and]
    cases kids.any isCell <;> rfl
  · rw [if_neg hrow, isFilledRow, decide_eq_false hrow, Bool.false_and]
    rfl

/-- Inside a table no row has an owner as far out as the table. -/
theorem filter_belongsTo_table {name : Text} (hname : name = "table".toList) (path : NodePath)
    (around : List Ancestor) (kids : List Node) {owner : NodePath}
    (hlength : owner.length < path.length) :
    (sitesAmong path (⟨path, name⟩ :: around) 0 kids).filter (belongsTo owner) = [] := by
  refine List.filter_eq_nil_iff.mpr fun s hs => ?_
  obtain ⟨i, -, hwithin⟩ := within_of_mem_sitesAmong hs
  intro hbelongs
  obtain ⟨-, howner⟩ := Bool.and_eq_true_iff.mp hbelongs
  have hle := le_length_nearestTable hname hwithin (of_decide_eq_true howner)
  omega

/-- Going down from a table, the walk finds the rows of which the table is the owner. -/
theorem value_walkRows (room number : Nat) {parent : NodePath} {around : List Ancestor}
    {nodes : List Node} {owner : NodePath} (howner : nearestTable around = some owner)
    (hlength : owner.length ≤ parent.length) :
    (walkRows room (headBefore around) nodes).value =
      ((sitesAmong parent around number nodes).filter (belongsTo owner)).map (rowAt room) := by
  induction nodes using Node.forest_induction generalizing parent around number with
  | nil => rfl
  | text kind content others ih =>
    rw [walkRows, ih (number + 1) howner hlength, sitesAmong_text, List.filter_cons_of_neg]
    simp [belongsTo, isFilledRow]
  | element name attributes kids others ihKids ih =>
    have hothers := ih (number + 1) howner hlength
    have hlonger : owner.length < (number :: parent).length := Nat.lt_succ_of_le hlength
    rw [value_walkRows_element, value_rowOf room (number :: parent), sitesAmong_element,
      hothers]
    by_cases htable : name = "table".toList
    · -- A table is no row, and what lies in it has an owner further in.
      have hrow : isFilledRow (.element name attributes kids) = false := by
        rw [isFilledRow, decide_eq_false (by rw [htable]; decide), Bool.false_and]
      rw [if_pos htable, List.filter_cons_of_neg (by simp [belongsTo, hrow]), List.filter_append,
        filter_belongsTo_table htable _ _ _ hlonger, List.nil_append, List.nil_append]
    · have hnearest := (nearestTable_other htable (number :: parent) around).trans howner
      have hkids := ihKids 0 hnearest (Nat.le_of_lt hlonger)
      rw [headBefore_other htable] at hkids
      rw [if_neg htable, hkids, List.filter_cons, List.filter_append, List.append_assoc]
      cases hrow : isFilledRow (.element name attributes kids) <;>
        simp [belongsTo, hrow, howner]

/-! ## Numbered tables -/

/-- The place of a row among numbered tables. -/
def placeOf (number : NodePath → Nat) (around : List Ancestor) : RowPlace :=
  ⟨(nearestTable around).map number, headBefore around⟩

/-- Inside an element the place of a row changes as what is around it does. -/
theorem placeOf_cons (number : NodePath → Nat) (path : NodePath) (name : Text)
    (around : List Ancestor) :
    placeOf number (⟨path, name⟩ :: around) =
      (placeOf number around).inside (number path) name := by
  unfold placeOf RowPlace.inside
  split
  · rename_i htable
    rw [nearestTable_table htable, headBefore_table htable]
    rfl
  · rename_i hother
    rw [nearestTable_other hother, headBefore_other hother]

/-- Tables have the numbers from one on, in document order. -/
def Counted (number : NodePath → Nat) (next : Nat) (found : List Site) : Prop :=
  (found.filter isTable).map (fun s => number s.path) = List.range' next (found.countP isTable)

theorem counted_append {number : NodePath → Nat} {next : Nat} (found : List Site)
    {others : List Site} (h : Counted number next (found ++ others)) :
    Counted number next found ∧ Counted number (next + found.countP isTable) others := by
  unfold Counted at h
  rw [List.filter_append, List.map_append, List.countP_append, ← List.range'_append_1] at h
  exact List.append_inj h (by simp [List.countP_eq_length_filter])

/-- An element counts when it is a table. -/
theorem countP_isTable_element (path : NodePath) (around : List Ancestor) (name : Text)
    (attributes : Attributes) (kids : List Node) (next : Nat) :
    next + [(⟨path, around, .element name attributes kids⟩ : Site)].countP isTable =
      if name = "table".toList then next + 1 else next := by
  rw [List.countP_singleton]
  simp only [isTable, Node.isNamed, decide_eq_true_eq]
  split <;> rfl

/-- Going into an element leads to the place inside of it, when a table has the number that it is
counted with. -/
theorem inside_placeOf {number : NodePath → Nat} {next : Nat} {path : NodePath}
    {around : List Ancestor} {name : Text} {attributes : Attributes} {kids : List Node}
    (h : Counted number next [⟨path, around, .element name attributes kids⟩]) :
    (placeOf number around).inside next name = placeOf number (⟨path, name⟩ :: around) := by
  rw [placeOf_cons]
  unfold RowPlace.inside
  split
  · rename_i htable
    have hnumber : number path = next := by
      simpa [Counted, isTable, Node.isNamed, htable] using h
    rw [hnumber]
  · rfl

/-- Going down with a count of the tables finds the place of every row, when each table has the
number that it is counted with. -/
theorem rowPlacesAmong_eq {number : NodePath → Nat} (parent : NodePath) (around : List Ancestor)
    (index next : Nat) (nodes : List Node)
    (h : Counted number next (sitesAmong parent around index nodes)) :
    rowPlacesAmong next (placeOf number around) nodes =
      (((sitesAmong parent around index nodes).filter isTableRow).map
          fun s => placeOf number s.around,
        next + (sitesAmong parent around index nodes).countP isTable) := by
  induction nodes using Node.forest_induction generalizing parent around index next with
  | nil => rfl
  | text kind content others ih =>
    rw [sitesAmong_text] at h ⊢
    obtain ⟨-, hothers⟩ := counted_append [_] h
    have hrest := ih parent around (index + 1) next hothers
    rw [rowPlacesAmong, rowPlacesOf, hrest,
      List.filter_cons_of_neg (by simp [isTableRow, Node.isNamed]),
      List.countP_cons_of_neg (by simp [isTable, Node.isNamed])]
    rfl
  | element name attributes kids others ihKids ih =>
    rw [sitesAmong_element] at h ⊢
    obtain ⟨hself, hbelow⟩ := counted_append [_] h
    obtain ⟨hkids, hothers⟩ := counted_append _ hbelow
    have hcount := countP_isTable_element (index :: parent) around name attributes kids next
    rw [hcount] at hkids hothers
    have hinside := inside_placeOf hself
    have hfound := ihKids _ _ 0 _ hkids
    have hrest := ih _ _ _ _ hothers
    rw [rowPlacesAmong, rowPlacesOf]
    dsimp only
    rw [hinside, hfound, hrest]
    refine Prod.ext ?_ ?_
    · by_cases hrow : name = "tr".toList
      · rw [if_pos hrow, List.filter_cons_of_pos (by simp [isTableRow, Node.isNamed, hrow]),
          List.filter_append, List.map_cons, List.map_append, List.singleton_append,
          List.cons_append]
      · rw [if_neg hrow, List.nil_append,
          List.filter_cons_of_neg (by simpa [isTableRow, Node.isNamed] using hrow),
          List.filter_append, List.map_append]
    · rw [← hcount, ← List.singleton_append (l := _ ++ _), List.countP_append, List.countP_append]
      omega

/-! ## Documents -/

/-- The rows that the walk finds in a table of a document. -/
theorem value_walkRows_table (room : Nat) {doc : List Node} {table : Site}
    (htable : table ∈ tables doc) :
    (walkRows room false table.node.children).value = (rowsOf doc table).map (rowAt room) := by
  obtain ⟨hsite, hname⟩ := List.mem_filter.mp htable
  cases hnode : table.node with
  | text kind content => simp [isTable, hnode, Node.isNamed] at hname
  | element name attributes kids =>
    have hname : name = "table".toList := by
      rw [isTable, hnode, Node.isNamed] at hname
      exact of_decide_eq_true hname
    have hnearest := nearestTable_table hname table.path table.around
    have hrows := @value_walkRows room 0 table.path _ kids _ hnearest (Nat.le_refl _)
    -- What belongs to the table has it among the elements around.
    have hbelow : ∀ s : Site, belongsTo table.path s = true → s.isBelow table.path = true := by
      intro s hs
      obtain ⟨-, howner⟩ := Bool.and_eq_true_iff.mp hs
      obtain ⟨inner, a, outer, haround, hpath, -⟩ :=
        exists_of_nearestTable (of_decide_eq_true howner)
      simp [Site.isBelow, haround, hpath]
    rw [headBefore_table hname, ← filter_isBelow_sites hsite hnode, List.filter_filter] at hrows
    have hfilter : (fun s => belongsTo table.path s && s.isBelow table.path) =
        belongsTo table.path := by
      funext s
      cases hs : belongsTo table.path s with
      | false => rfl
      | true => rw [hbelow s hs, Bool.true_and]
    rw [hfilter] at hrows
    exact hrows

theorem nodup_sites (doc : List Node) : (sites doc).Nodup :=
  (nodup_path_sitesAmong [] [] 0 doc).of_map

/-- The owner of a row is a table of the document. -/
theorem exists_table_of_nearestTable {doc : List Node} {s : Site} (hs : s ∈ sites doc)
    {owner : NodePath} (howner : nearestTable s.around = some owner) :
    ∃ table ∈ tables doc, table.path = owner := by
  obtain ⟨inner, a, outer, haround, rfl, hname⟩ := exists_of_nearestTable howner
  obtain ⟨t, ht, hpath, -, hnamed⟩ := exists_site_of_mem_around hs haround
  exact ⟨t, List.mem_filter.mpr ⟨ht, by rwa [isTable, ← hname]⟩, hpath⟩

/-- The rows of a document stand at the places that looking outward from them gives, when tables are
told apart by their number in document order. -/
theorem rowPlaces_eq (doc : List Node) :
    rowPlaces doc = ((sites doc).filter isTableRow).map fun s =>
      placeOf (((tables doc).map (·.path)).idxOf ·) s.around := by
  have hnodup : ((tables doc).map (·.path)).Nodup :=
    (nodup_path_sitesAmong [] [] 0 doc).sublist (List.filter_sublist.map _)
  have hcounted : Counted (((tables doc).map (·.path)).idxOf ·) 0 (sites doc) := by
    rw [Counted, List.countP_eq_length_filter]
    refine List.ext_getElem (by simp) fun i hi hi' => ?_
    have hlength : i < ((tables doc).map (·.path)).length := by simpa [tables] using hi
    have hindex := hnodup.idxOf_getElem i hlength
    simpa [tables] using hindex
  have hplaces := rowPlacesAmong_eq [] [] 0 0 doc hcounted
  rw [rowPlaces]
  exact congrArg Prod.fst hplaces

/-- All tables together have the rows with cells that have an owner, each once. -/
theorem flatMap_rowsOf_perm (doc : List Node) :
    ((tables doc).flatMap (rowsOf doc)).Perm
      ((sites doc).filter fun s => isFilledRow s.node && (nearestTable s.around).isSome) := by
  have hsites := nodup_sites doc
  have hrows : ∀ table ∈ tables doc, (rowsOf doc table).Nodup := fun _ _ => hsites.filter _
  have hdisjoint : (tables doc).Pairwise (Function.onFun List.Disjoint (rowsOf doc)) := by
    refine List.Pairwise.imp_of_mem ?_ (hsites.filter _)
    intro table other htable hother hne row hrow hrow'
    refine hne (eq_of_path_eq (List.mem_filter.mp htable).1 (List.mem_filter.mp hother).1 ?_)
    obtain ⟨-, howner⟩ := Bool.and_eq_true_iff.mp (List.mem_filter.mp hrow).2
    obtain ⟨-, howner'⟩ := Bool.and_eq_true_iff.mp (List.mem_filter.mp hrow').2
    exact Option.some.inj ((of_decide_eq_true howner).symm.trans (of_decide_eq_true howner'))
  refine (List.perm_ext_iff_of_nodup (List.nodup_flatMap.mpr ⟨hrows, hdisjoint⟩)
    (hsites.filter _)).mpr fun s => ?_
  simp only [List.mem_flatMap, rowsOf, List.mem_filter, belongsTo, Bool.and_eq_true,
    decide_eq_true_eq, Option.isSome_iff_exists]
  constructor
  · rintro ⟨table, -, hs, hrow, howner⟩
    exact ⟨hs, hrow, table.path, howner⟩
  · rintro ⟨hs, hrow, owner, howner⟩
    obtain ⟨table, htable, rfl⟩ := exists_table_of_nearestTable hs howner
    exact ⟨table, htable, hs, hrow, howner⟩

/-- The walk finds the rows of every table of which the table is the owner, each as its own cells
and the head before its table make it, in document order. All tables together have the rows with
cells that a table is around, each once. A site is there for every node, its path being its own, and
a row stands where looking outward from it says. -/
theorem tableRows_partition (room : Nat) (doc : List Node) :
    (tables doc).map (fun table => (walkRows room false table.node.children).value) =
        (tables doc).map (fun table => (rowsOf doc table).map (rowAt room)) ∧
      ((tables doc).flatMap (rowsOf doc)).Perm
        ((sites doc).filter fun s => isFilledRow s.node && (nearestTable s.around).isSome) ∧
      (sites doc).map (·.node) = Node.preorderAll doc ∧ ((sites doc).map (·.path)).Nodup ∧
      rowPlaces doc = ((sites doc).filter isTableRow).map fun s =>
        placeOf (((tables doc).map (·.path)).idxOf ·) s.around := by
  have hrows : ∀ table ∈ tables doc, (walkRows room false table.node.children).value =
      (rowsOf doc table).map (rowAt room) := fun table htable => value_walkRows_table room htable
  exact ⟨List.map_congr_left hrows, flatMap_rowsOf_perm doc, map_node_sites doc,
    nodup_path_sitesAmong [] [] 0 doc, rowPlaces_eq doc⟩

end PageMarkdown.Markdown
