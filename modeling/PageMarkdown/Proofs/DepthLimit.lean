import PageMarkdown.Proofs.Html.Node
import PageMarkdown.Proofs.Letters

/-!
# The depth limit

With more room a walk finds the same, except below the elements that were cut
before. A walk that cuts nothing is therefore final; any other one only gains
letters, since the frames of elements, the items of lists and the columns of
tables add none of their own. Links with a target are left out there: their
target stands in for a text that was cut.
-/

namespace PageMarkdown.Markdown

open Text Html

/-! ## Walks that cut nothing -/

/-- The second result is the first one, unless something was cut in the first one. -/
def Marked.Final {α : Type} (m m' : Marked α) : Prop := m.marks.any Mark.isCut = false → m' = m

namespace Marked

variable {α β : Type}

theorem Final.refl (m : Marked α) : m.Final m := fun _ => rfl

theorem Final.map {m m' : Marked α} (h : m.Final m') (f : α → β) : (m.map f).Final (m'.map f) :=
  fun hcut => congrArg (Marked.map f) (h hcut)

theorem Final.append {m m' n n' : Marked (List α)} (hm : m.Final m') (hn : n.Final n') :
    (m ++ n).Final (m' ++ n') := by
  intro hcut
  rw [marks_append, List.any_append, Bool.or_eq_false_iff] at hcut
  rw [hm hcut.1, hn hcut.2]

end Marked

/-- More room changes nothing in the walks over nodes that cut nothing. -/
structure FinalWalks (room room' : Nat) (nodes : List Node) : Prop where
  /-- As running text. -/
  content (depth : Nat) : (walkAll room depth nodes).Final (walkAll room' depth nodes)
  /-- As the children of a list. -/
  items (depth : Nat) : (walkItems room depth nodes).Final (walkItems room' depth nodes)
  /-- Below a table. -/
  rows (inHead : Bool) : (walkRows room inHead nodes).Final (walkRows room' inHead nodes)
  /-- As the children of a row. -/
  cells : (walkCells room nodes).Final (walkCells room' nodes)

/-- An element that is cut is not final; an element that is entered is, when its children are with
one unit of room less. -/
theorem walk_element_final {room room' : Nat} (hle : room ≤ room') (name : Text)
    (attributes : Attributes) {kids : List Node}
    (hkids : ∀ {r r'}, r ≤ r' → FinalWalks r r' kids) (depth : Nat) :
    (walk room depth (.element name attributes kids)).Final
      (walk room' depth (.element name attributes kids)) := by
  cases room with
  | zero =>
    intro hcut
    simp [walk_element_zero, Mark.isCut] at hcut
  | succ room =>
    obtain ⟨room', rfl⟩ := Nat.exists_eq_add_of_le' (Nat.zero_lt_of_lt hle)
    have hkids := hkids (Nat.le_of_succ_le_succ hle)
    rw [walk_element_succ, walk_element_succ]
    cases shown name attributes kids with
    | fixed t => exact Marked.Final.refl _
    | content frame => exact (hkids.content depth).map frame
    | items ordered => exact (hkids.items depth).map (renderList ordered depth)
    | rows =>
      intro hcut
      rw [any_marks_tableMarkdown fun _ => rfl] at hcut
      have hrows : (tableRowsOf room name kids).Final (tableRowsOf room' name kids) := by
        rw [tableRowsOf, tableRowsOf]
        split
        · exact hkids.rows false
        · exact Marked.Final.refl _
      rw [hrows hcut]

namespace FinalWalks

variable {room room' : Nat}

theorem nil : FinalWalks room room' [] := by
  constructor
  · intro depth
    rw [walkAll, walkAll]
    exact Marked.Final.refl _
  · intro depth
    rw [walkItems, walkItems]
    exact Marked.Final.refl _
  · intro inHead
    rw [walkRows, walkRows]
    exact Marked.Final.refl _
  · rw [walkCells, walkCells]
    exact Marked.Final.refl _

/-- A string needs no room. -/
theorem text {others : List Node} (hothers : FinalWalks room room' others) (kind : StringKind)
    (content : Text) : FinalWalks room room' (.text kind content :: others) := by
  constructor
  · intro depth
    rw [walkAll, walkAll, walk, walk]
    exact (Marked.Final.refl _).append (hothers.content depth)
  · intro depth
    rw [walkItems, walkItems]
    exact hothers.items depth
  · intro inHead
    rw [walkRows, walkRows]
    exact hothers.rows inHead
  · rw [walkCells, walkCells]
    exact hothers.cells

/-- Items, rows and cells are entered without taking room. -/
theorem element (hle : room ≤ room') {kids others : List Node}
    (hkids : ∀ {r r'}, r ≤ r' → FinalWalks r r' kids) (hothers : FinalWalks room room' others)
    (name : Text) (attributes : Attributes) :
    FinalWalks room room' (.element name attributes kids :: others) := by
  have hsame := hkids hle
  constructor
  · intro depth
    rw [walkAll, walkAll]
    exact (walk_element_final hle name attributes hkids depth).append (hothers.content depth)
  · intro depth
    rw [walkItems, walkItems]
    split
    · exact ((hsame.content (depth + 1)).map _).append (hothers.items depth)
    · exact hothers.items depth
  · intro inHead
    rw [walkRows, walkRows]
    refine Marked.Final.append ?_ (hothers.rows inHead)
    split
    · exact Marked.Final.refl _
    · refine Marked.Final.append ?_ (hsame.rows _)
      split
      · exact hsame.cells.map _
      · exact Marked.Final.refl _
  · rw [walkCells, walkCells]
    dsimp only
    split
    · intro hcut
      rw [List.any_append, Bool.or_eq_false_iff] at hcut
      rw [hsame.content 0 hcut.1, hothers.cells hcut.2]
    · exact hothers.cells

end FinalWalks

/-- A walk over any nodes that cuts nothing is the same walk with more room. -/
theorem finalWalks {room room' : Nat} (hle : room ≤ room') (nodes : List Node) :
    FinalWalks room room' nodes := by
  induction nodes using Node.forest_induction generalizing room room' with
  | nil => exact .nil
  | text kind content others ih => exact (ih hle).text kind content
  | element name attributes kids others ihKids ih =>
    exact .element hle ihKids (ih hle) name attributes

/-! ## Gaining letters -/

/-- The letters of a text are among those of another one, in order. -/
def LettersWithin (t t' : Text) : Prop := (letters t).Sublist (letters t')

theorem LettersWithin.refl (t : Text) : LettersWithin t t := List.Sublist.refl _

theorem LettersWithin.append {t t' u u' : Text} (ht : LettersWithin t t')
    (hu : LettersWithin u u') : LettersWithin (t ++ u) (t' ++ u') := by
  rw [LettersWithin, letters_append, letters_append]
  exact List.Sublist.append ht hu

/-- A row gains letters but stays in its section and keeps its header cells. -/
structure RowGains (r r' : TableRow) : Prop where
  /-- The letters of its cells. -/
  cells : LettersWithin r.cells.flatten r'.cells.flatten
  /-- Header cells. -/
  header : r.hasHeaderCell = r'.hasHeaderCell
  /-- The section of the row. -/
  head : r.fromHead = r'.fromHead

/-- Rows gain letters one by one. -/
abbrev RowsGain (rows rows' : List TableRow) : Prop := List.Forall₂ RowGains rows rows'

theorem RowsGain.append {rows rows' others others' : List TableRow} (hrows : RowsGain rows rows')
    (hothers : RowsGain others others') : RowsGain (rows ++ others) (rows' ++ others') :=
  List.rel_append hrows hothers

theorem findIdx?_of_rowsGain {p : TableRow → Bool} (hp : ∀ r r', RowGains r r' → p r = p r')
    {rows rows' : List TableRow} (h : RowsGain rows rows') :
    rows.findIdx? p = rows'.findIdx? p := by
  induction h with
  | nil => rfl
  | cons hr _ ih => rw [List.findIdx?_cons, List.findIdx?_cons, hp _ _ hr, ih]

/-- The header row stays where it is. -/
theorem headerIndex_of_rowsGain {rows rows' : List TableRow} (h : RowsGain rows rows') :
    headerIndex rows = headerIndex rows' := by
  rw [headerIndex, headerIndex, findIdx?_of_rowsGain (fun _ _ hr => hr.head) h,
    findIdx?_of_rowsGain (fun _ _ hr => hr.header) h]

theorem headerFirst_of_rowsGain {rows rows' : List TableRow} (h : RowsGain rows rows') :
    RowsGain (headerFirst rows) (headerFirst rows') := by
  have hcut : ∀ rows : List TableRow, headerFirst rows =
      (rows.drop (headerIndex rows)).take 1 ++
        (rows.take (headerIndex rows) ++ rows.drop (headerIndex rows + 1)) := by
    intro rows
    rw [List.take_one, List.head?_drop, ← List.eraseIdx_eq_take_drop_succ, headerFirst]
  rw [hcut, hcut, headerIndex_of_rowsGain h]
  exact RowsGain.append (List.forall₂_take 1 (List.forall₂_drop _ h))
    (RowsGain.append (List.forall₂_take _ h) (List.forall₂_drop _ h))

/-- A table gains the letters that its rows gain. -/
theorem LettersWithin.renderTable {rows rows' : List TableRow} (h : RowsGain rows rows') :
    LettersWithin (renderTable rows) (renderTable rows') := by
  rw [LettersWithin, letters_renderTable, letters_renderTable]
  have hfirst := headerFirst_of_rowsGain h
  generalize headerFirst rows = first, headerFirst rows' = first' at hfirst
  induction hfirst with
  | nil => exact List.Sublist.refl _
  | cons hr _ ih =>
    rw [List.map_cons, List.map_cons, letters_flatten_cons, letters_flatten_cons]
    exact List.Sublist.append hr.cells ih

/-! ## Walks with more room -/

/-- The second result gains on the first one: their values are related, and it is a fault when the
first one is. -/
structure Marked.Gains {α : Type} (R : α → α → Prop) (m m' : Marked α) : Prop where
  /-- The values. -/
  value : R m.value m'.value
  /-- The strings that were refused. -/
  sound : m'.marks.any Mark.isFault = false → m.marks.any Mark.isFault = false

namespace Marked

variable {α β : Type}

theorem Gains.refl {R : α → α → Prop} (hR : ∀ a, R a a) (m : Marked α) : m.Gains R m :=
  ⟨hR m.value, id⟩

theorem Gains.map {R : α → α → Prop} {S : β → β → Prop} {f : α → β}
    (hf : ∀ a a', R a a' → S (f a) (f a')) {m m' : Marked α} (h : m.Gains R m') :
    (m.map f).Gains S (m'.map f) :=
  ⟨hf _ _ h.value, h.sound⟩

theorem Gains.append {R : List α → List α → Prop}
    (hR : ∀ a a' b b', R a a' → R b b' → R (a ++ b) (a' ++ b')) {m m' n n' : Marked (List α)}
    (hm : m.Gains R m') (hn : n.Gains R n') : (m ++ n).Gains R (m' ++ n') := by
  refine ⟨hR _ _ _ _ hm.value hn.value, fun hfault => ?_⟩
  rw [marks_append, List.any_append, Bool.or_eq_false_iff] at hfault
  rw [marks_append, List.any_append, hm.sound hfault.1, hn.sound hfault.2, Bool.or_false]

end Marked

/-- Items gain letters. -/
def ItemsGain (items items' : List Text) : Prop := LettersWithin items.flatten items'.flatten

theorem ItemsGain.append {items items' others others' : List Text} (hitems : ItemsGain items items')
    (hothers : ItemsGain others others') : ItemsGain (items ++ others) (items' ++ others') := by
  rw [ItemsGain, List.flatten_append, List.flatten_append]
  exact LettersWithin.append hitems hothers

/-- The cells of a row gain letters; none is added, and header cells stay. -/
structure CellsGain (cells cells' : List Text × Bool) : Prop where
  /-- Their letters. -/
  letters : LettersWithin cells.1.flatten cells'.1.flatten
  /-- Whether there are any. -/
  isEmpty : cells.1.isEmpty = cells'.1.isEmpty
  /-- Header cells. -/
  header : cells.2 = cells'.2

/-- More room only adds letters to the walks over nodes. -/
structure GainingWalks (room room' : Nat) (nodes : List Node) : Prop where
  /-- As running text. -/
  content (depth : Nat) :
    (walkAll room depth nodes).Gains LettersWithin (walkAll room' depth nodes)
  /-- As the children of a list. -/
  items (depth : Nat) : (walkItems room depth nodes).Gains ItemsGain (walkItems room' depth nodes)
  /-- Below a table. -/
  rows (inHead : Bool) : (walkRows room inHead nodes).Gains RowsGain (walkRows room' inHead nodes)
  /-- As the children of a row. -/
  cells : (walkCells room nodes).Gains CellsGain (walkCells room' nodes)

/-- An element with more room gains letters: one that was cut all of them, and one that was entered
those that its children gain. -/
theorem walk_element_gains {room room' : Nat} (hle : room ≤ room') {name : Text}
    {attributes : Attributes} {kids : List Node}
    (htarget : hasTarget (.element name attributes kids) = false)
    (hkids : ∀ {r r'}, r ≤ r' → GainingWalks r r' kids) (depth : Nat) :
    (walk room depth (.element name attributes kids)).Gains LettersWithin
      (walk room' depth (.element name attributes kids)) := by
  cases room with
  | zero =>
    rw [walk_element_zero]
    exact ⟨List.nil_sublist _, fun _ => rfl⟩
  | succ room =>
    obtain ⟨room', rfl⟩ := Nat.exists_eq_add_of_le' (Nat.zero_lt_of_lt hle)
    have hkids := hkids (Nat.le_of_succ_le_succ hle)
    rw [walk_element_succ, walk_element_succ]
    cases hshown : shown name attributes kids with
    | fixed t => exact Marked.Gains.refl LettersWithin.refl _
    | content frame =>
      refine (hkids.content depth).map fun t t' h => ?_
      rwa [LettersWithin, letters_frame hshown htarget, letters_frame hshown htarget]
    | items ordered =>
      refine (hkids.items depth).map fun items items' h => ?_
      rwa [LettersWithin, letters_renderList, letters_renderList]
    | rows =>
      have hrows : (tableRowsOf room name kids).Gains RowsGain (tableRowsOf room' name kids) := by
        rw [tableRowsOf, tableRowsOf]
        split
        · exact hkids.rows false
        · exact ⟨.nil, id⟩
      refine ⟨.renderTable hrows.value, fun hfault => ?_⟩
      rw [any_marks_tableMarkdown fun _ => rfl] at hfault ⊢
      exact hrows.sound hfault

/-- The cells of one more cell element gain what its content gains. -/
theorem cells_gain (attributes : Attributes) (isHeader : Bool) {content content' : Marked Text}
    {rest rest' : Marked (List Text × Bool)} (hcontent : content.Gains LettersWithin content')
    (hrest : rest.Gains CellsGain rest') :
    Marked.Gains CellsGain
      ⟨(cellTexts attributes content.value ++ rest.value.1, isHeader || rest.value.2),
        content.marks ++ rest.marks⟩
      ⟨(cellTexts attributes content'.value ++ rest'.value.1, isHeader || rest'.value.2),
        content'.marks ++ rest'.marks⟩ := by
  refine ⟨⟨?_, ?_, ?_⟩, fun hfault => ?_⟩
  · simp only [List.flatten_append]
    refine LettersWithin.append ?_ hrest.value.letters
    rw [LettersWithin, letters_cellTexts, letters_cellTexts]
    exact hcontent.value
  · simp [cellTexts]
  · rw [hrest.value.header]
  · rw [List.any_append, Bool.or_eq_false_iff] at hfault
    rw [List.any_append, hcontent.sound hfault.1, hrest.sound hfault.2, Bool.or_false]

/-- The row that cells make gains what they gain. -/
theorem rowOf_gains (inHead : Bool) {cells cells' : Marked (List Text × Bool)}
    (h : cells.Gains CellsGain cells') :
    (rowOf inHead cells).Gains RowsGain (rowOf inHead cells') := by
  refine h.map fun found found' hfound => ?_
  rw [hfound.isEmpty]
  split
  · exact .nil
  · exact .cons ⟨hfound.letters, hfound.header, rfl⟩ .nil

namespace GainingWalks

variable {room room' : Nat}

theorem nil : GainingWalks room room' [] := by
  constructor
  · intro depth
    rw [walkAll, walkAll]
    exact Marked.Gains.refl LettersWithin.refl _
  · intro depth
    rw [walkItems, walkItems]
    exact ⟨LettersWithin.refl _, id⟩
  · intro inHead
    rw [walkRows, walkRows]
    exact ⟨.nil, id⟩
  · rw [walkCells, walkCells]
    exact ⟨⟨LettersWithin.refl _, rfl, rfl⟩, id⟩

theorem text {others : List Node} (hothers : GainingWalks room room' others) (kind : StringKind)
    (content : Text) : GainingWalks room room' (.text kind content :: others) := by
  constructor
  · intro depth
    rw [walkAll, walkAll, walk, walk]
    exact (Marked.Gains.refl LettersWithin.refl _).append (fun _ _ _ _ => .append)
      (hothers.content depth)
  · intro depth
    rw [walkItems, walkItems]
    exact hothers.items depth
  · intro inHead
    rw [walkRows, walkRows]
    exact hothers.rows inHead
  · rw [walkCells, walkCells]
    exact hothers.cells

/-- Items gain what their contents gain, and cells and rows stay where they are. -/
theorem element (hle : room ≤ room') {name : Text} {attributes : Attributes}
    {kids others : List Node} (htarget : hasTarget (.element name attributes kids) = false)
    (hkids : ∀ {r r'}, r ≤ r' → GainingWalks r r' kids)
    (hothers : GainingWalks room room' others) :
    GainingWalks room room' (.element name attributes kids :: others) := by
  have hsame := hkids hle
  constructor
  · intro depth
    rw [walkAll, walkAll]
    exact (walk_element_gains hle htarget hkids depth).append (fun _ _ _ _ => .append)
      (hothers.content depth)
  · intro depth
    rw [walkItems, walkItems]
    split
    · refine Marked.Gains.append (fun _ _ _ _ => .append) ?_ (hothers.items depth)
      refine (hsame.content (depth + 1)).map fun t t' ht => ?_
      rwa [ItemsGain, LettersWithin, letters_item, letters_item]
    · exact hothers.items depth
  · intro inHead
    rw [walkRows, walkRows]
    refine Marked.Gains.append (fun _ _ _ _ => .append) ?_ (hothers.rows inHead)
    split
    · exact ⟨.nil, id⟩
    · refine Marked.Gains.append (fun _ _ _ _ => .append) ?_ (hsame.rows _)
      split
      · exact rowOf_gains inHead hsame.cells
      · exact ⟨.nil, id⟩
  · rw [walkCells, walkCells]
    dsimp only
    split
    · exact cells_gain attributes _ (hsame.content 0) hothers.cells
    · exact hothers.cells

end GainingWalks

/-- Where no link has a target, more room only adds letters. -/
theorem gainingWalks {room room' : Nat} (hle : room ≤ room') (nodes : List Node)
    (h : ∀ node ∈ Node.preorderAll nodes, hasTarget node = false) :
    GainingWalks room room' nodes := by
  induction nodes using Node.forest_induction generalizing room room' with
  | nil => exact .nil
  | text kind content others ih =>
    rw [Node.forall_preorderAll_text] at h
    exact (ih hle h.2).text kind content
  | element name attributes kids others ihKids ih =>
    obtain ⟨htarget, hkids, hothers⟩ := (Node.forall_preorderAll_element ..).mp h
    exact .element hle htarget (fun hle => ihKids hle hkids) (ih hle hothers)

/-! ## Documents -/

namespace Converter

/-- Raising the limit of a run that cut nothing changes nothing. -/
theorem convertDocument_of_untruncated {m m' : Int} (hle : m ≤ m') {nodes : List Node} {t : Text}
    {c : Converter} (hok : (convertDocument ⟨m, false⟩ nodes).outcome = .ok (t, c))
    (huncut : c.truncated = false) :
    (convertDocument ⟨m', false⟩ nodes).outcome = .ok (t, ⟨m', false⟩) := by
  obtain ⟨hsound, ht, rfl⟩ := (convertDocument_outcome_iff ..).mp hok
  have hroom : m.toNat ≤ m'.toNat := Int.toNat_le_toNat hle
  have hcut : (walkAll m.toNat 0 nodes).marks.any Mark.isCut = false := huncut
  have hsame : walkAll m'.toNat 0 nodes = walkAll m.toNat 0 nodes :=
    (finalWalks hroom nodes).content 0 hcut
  refine (convertDocument_outcome_iff ..).mpr ?_
  rw [show (Converter.room ⟨m', false⟩) = m'.toNat from rfl, hsame, hcut]
  exact ⟨hsound, ht, rfl⟩

/-- Without links to a target, what a run finds is among what a run with a higher limit finds. -/
theorem convertDocument_gains {m m' : Int} (hle : m ≤ m') {nodes : List Node}
    (h : ∀ node ∈ Node.preorderAll nodes, hasTarget node = false) {t' : Text} {c' : Converter}
    (hok : (convertDocument ⟨m', false⟩ nodes).outcome = .ok (t', c')) :
    ∃ t c, (convertDocument ⟨m, false⟩ nodes).outcome = .ok (t, c) ∧ LettersWithin t t' := by
  obtain ⟨hsound, rfl, rfl⟩ := (convertDocument_outcome_iff ..).mp hok
  have hgains := (gainingWalks (Int.toNat_le_toNat hle) nodes h).content 0
  refine ⟨_, _, (convertDocument_outcome_iff ..).mpr ⟨hgains.sound hsound, rfl, rfl⟩, ?_⟩
  rw [LettersWithin, letters_settle, letters_settle]
  exact hgains.value

/-- A run of a fresh converter tells one truncation if it ends truncated, and none otherwise. -/
theorem count_truncations_convertDocument {m : Int} {nodes : List Node} {t : Text} {c : Converter}
    (hok : (convertDocument ⟨m, false⟩ nodes).outcome = .ok (t, c)) :
    (convertDocument ⟨m, false⟩ nodes).events.countP Event.isTruncation =
      if c.truncated then 1 else 0 := by
  obtain ⟨hsound, -, rfl⟩ := (convertDocument_outcome_iff ..).mp hok
  rw [convertDocument, finish_events]
  exact count_truncations_of_ok ((tellMarks_outcome_iff ..).mpr ⟨hsound, rfl⟩)

end Converter

/-- The depth limit is exact and monotone. A run that cuts nothing is the run of every higher limit;
where no link has a target, a higher limit takes no letters away and moves none; and a truncation is
told once by a run that ends truncated, never by one that does not, and at most once by a run that
ends in a fault. -/
theorem convertDocument_depth_limit {m m' : Int} (hle : m ≤ m') (nodes : List Node) :
    (∀ t c, (Converter.convertDocument ⟨m, false⟩ nodes).outcome = .ok (t, c) →
      c.truncated = false →
        (Converter.convertDocument ⟨m', false⟩ nodes).outcome = .ok (t, ⟨m', false⟩)) ∧
    ((∀ node ∈ Node.preorderAll nodes, hasTarget node = false) →
      ∀ t' c', (Converter.convertDocument ⟨m', false⟩ nodes).outcome = .ok (t', c') →
        ∃ t c, (Converter.convertDocument ⟨m, false⟩ nodes).outcome = .ok (t, c) ∧
          (letters t).Sublist (letters t')) ∧
    (∀ t c, (Converter.convertDocument ⟨m, false⟩ nodes).outcome = .ok (t, c) →
      (Converter.convertDocument ⟨m, false⟩ nodes).events.countP Event.isTruncation =
        if c.truncated then 1 else 0) ∧
    (Converter.convertDocument ⟨m, false⟩ nodes).events.countP Event.isTruncation ≤ 1 := by
  refine ⟨fun t c => Converter.convertDocument_of_untruncated hle, fun h t' c' =>
    Converter.convertDocument_gains hle h, fun t c =>
    Converter.count_truncations_convertDocument, ?_⟩
  rw [Converter.convertDocument, Converter.finish_events]
  exact count_truncations_le_one ..

/-- A paragraph with strong emphasis, two elements deep. -/
def strongParagraph : List Node :=
  [.element "p".toList [] [.text .plain "ab".toList,
    .element "strong".toList [] [.text .plain "cd".toList]]]

theorem convertDocument_depth_limit_strongParagraph :
    (Converter.convertDocument ⟨3, false⟩ strongParagraph).outcome =
      .ok ("ab**cd**".toList, ⟨3, false⟩) ∧
    (∃ t c, (Converter.convertDocument ⟨1, false⟩ strongParagraph).outcome = .ok (t, c) ∧
      (letters t).Sublist "abcd".toList) ∧
    (Converter.convertDocument ⟨1, false⟩ strongParagraph).events.countP Event.isTruncation =
      1 := by
  have huncut : (Converter.convertDocument ⟨2, false⟩ strongParagraph).outcome =
      .ok ("ab**cd**".toList, ⟨2, false⟩) :=
    (Converter.convertDocument_outcome_iff ..).mpr ⟨by decide, by decide, by decide⟩
  have hcut : (Converter.convertDocument ⟨1, false⟩ strongParagraph).outcome =
      .ok ("ab".toList, ⟨1, true⟩) :=
    (Converter.convertDocument_outcome_iff ..).mpr ⟨by decide, by decide, by decide⟩
  obtain ⟨hsame, -⟩ := convertDocument_depth_limit (show (2 : Int) ≤ 3 by decide) strongParagraph
  obtain ⟨-, hmore, htold, -⟩ :=
    convertDocument_depth_limit (show (1 : Int) ≤ 2 by decide) strongParagraph
  exact ⟨hsame _ _ huncut rfl, hmore (by decide) _ _ huncut, htold _ _ hcut⟩

end PageMarkdown.Markdown
