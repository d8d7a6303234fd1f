import PageMarkdown.Proofs.Html.Layer
import PageMarkdown.Proofs.Ink
import PageMarkdown.Proofs.Walk

/-!
# Strings that are seen

The walk gets to a place in a document layer by layer: through elements that show
their content, through the items of lists, and through the rows and cells of
tables. A string is seen when the walk gets to it and reads it, or gets to code
around it and the string belongs to the text of that code. What is seen is shown,
whatever the layers put around it, and what is not seen makes no difference.
-/

namespace PageMarkdown.Markdown

open Text Html

/-! ## The way of the walk -/

/-- The element shows what it holds inside a frame. -/
def Role.showsContent : Role → Bool
  | heading _ | paragraph | strong | emphasis | link | quote | transparent => true
  | _ => false

/-- The element shows the text that it gathers from what it holds. -/
def Role.gathersText : Role → Bool
  | code | preformatted => true
  | _ => false

/-- What the walk looks for among nodes. -/
inductive View where
  /-- Running text. -/
  | content
  /-- The items of a list. -/
  | items
  /-- The rows of a table. -/
  | rows
  /-- The cells of a row. -/
  | cells

/-- The walk gets through layers to an end of its way, looking for something with some room. An end
is where it looks for running text, with the room that it has there and the layers still ahead. -/
inductive Leads (ends : Nat → List Layer → Prop) : View → Nat → List Layer → Prop where
  /-- The way ends here. -/
  | here {room : Nat} {layers : List Layer} : ends room layers → Leads ends .content room layers
  /-- It goes into an element that shows its content. -/
  | frame {room : Nat} {l : Layer} {layers : List Layer} :
      (Role.ofName l.name).showsContent = true → Leads ends .content room layers →
      Leads ends .content (room + 1) (l :: layers)
  /-- It goes into a list. -/
  | list {room : Nat} {l : Layer} {layers : List Layer} {ordered : Bool} :
      Role.ofName l.name = .list ordered → Leads ends .items room layers →
      Leads ends .content (room + 1) (l :: layers)
  /-- It goes into a table. -/
  | table {room : Nat} {l : Layer} {layers : List Layer} :
      l.name = "table".toList → Leads ends .rows room layers →
      Leads ends .content (room + 1) (l :: layers)
  /-- It goes into an item of the list. -/
  | item {room : Nat} {l : Layer} {layers : List Layer} :
      lower l.name = "li".toList → Leads ends .content room layers →
      Leads ends .items room (l :: layers)
  /-- Rows are looked for below any element but a table. -/
  | deeper {room : Nat} {l : Layer} {layers : List Layer} :
      l.name ≠ "table".toList → Leads ends .rows room layers → Leads ends .rows room (l :: layers)
  /-- It goes into a row. -/
  | row {room : Nat} {l : Layer} {layers : List Layer} :
      l.name = "tr".toList → Leads ends .cells room layers → Leads ends .rows room (l :: layers)
  /-- It goes into a cell of the row. -/
  | cell {room : Nat} {l : Layer} {layers : List Layer} :
      lower l.name = "th".toList ∨ lower l.name = "td".toList → Leads ends .content room layers →
      Leads ends .cells room (l :: layers)

/-- A string of a kind is seen at the end of a way: there is nothing around it any more and it is
read, or it is in the text that the next element gathers. -/
inductive SeenAt (kind : StringKind) : Nat → List Layer → Prop where
  /-- The string is read. -/
  | read {room : Nat} : kind.isRead = true → SeenAt kind room []
  /-- The string is gathered. -/
  | gathered {room : Nat} {l : Layer} {layers : List Layer} :
      (Role.ofName l.name).gathersText = true → kind.isInnerText = true →
      SeenAt kind (room + 1) (l :: layers)

/-- A string that is not gathered is seen only where nothing is around it any more. -/
theorem not_seenAt_cons {kind : StringKind} (h : kind.isInnerText = false) {room : Nat} {l : Layer}
    {layers : List Layer} : ¬ SeenAt kind room (l :: layers) := by
  rintro (_ | ⟨_, hinner⟩)
  rw [h] at hinner
  cases hinner

namespace Leads

variable {ends ends' : Nat → List Layer → Prop} {v : View} {room : Nat}
  {layers inner : List Layer}

/-- A way that ends among further layers goes on there. -/
theorem append (h : Leads ends v room layers)
    (hends : ∀ r ls, ends r ls → Leads ends' .content r (ls ++ inner)) :
    Leads ends' v room (layers ++ inner) := by
  induction h with
  | here hend => exact hends _ _ hend
  | frame hrole _ ih => exact .frame hrole ih
  | list hrole _ ih => exact .list hrole ih
  | table hname _ ih => exact .table hname ih
  | item hname _ ih => exact .item hname ih
  | deeper hname _ ih => exact .deeper hname ih
  | row hname _ ih => exact .row hname ih
  | cell hname _ ih => exact .cell hname ih

/-- Some of the layers are still ahead where the way ends. -/
theorem exists_end (h : Leads ends v room layers) : ∃ r ls, ends r ls ∧ ls ⊆ layers := by
  have hcons : ∀ {l : Layer} {layers : List Layer}, (∃ r ls, ends r ls ∧ ls ⊆ layers) →
      ∃ r ls, ends r ls ∧ ls ⊆ l :: layers := by
    rintro l layers ⟨r, ls, hend, hsub⟩
    exact ⟨r, ls, hend, List.Subset.trans hsub (List.subset_cons_self ..)⟩
  induction h with
  | here hend => exact ⟨_, _, hend, List.Subset.refl _⟩
  | frame _ _ ih | list _ _ ih | table _ _ ih | item _ _ ih | deeper _ _ ih
  | row _ _ ih | cell _ _ ih => exact hcons ih

/-- From where rows are looked for the way goes through a row. -/
theorem exists_row (h : Leads ends v room layers) (hv : v = .rows) :
    ∃ l ∈ layers, l.name = "tr".toList := by
  induction h with
  | deeper _ _ ih =>
    obtain ⟨l, hl, hname⟩ := ih hv
    exact ⟨l, List.mem_cons_of_mem _ hl, hname⟩
  | row hname _ _ => exact ⟨_, List.mem_cons_self, hname⟩
  | _ => cases hv

/-- The way comes to a string that is read, or to an element that gathers it. -/
theorem read_or_gathered {kind : StringKind} (h : Leads (SeenAt kind) v room layers) :
    kind.isRead = true ∨
      kind.isInnerText = true ∧ ∃ l ∈ layers, (Role.ofName l.name).gathersText = true := by
  obtain ⟨r, ls, hseen, hsub⟩ := h.exists_end
  cases hseen with
  | read hread => exact .inl hread
  | gathered hrole hinner => exact .inr ⟨hinner, _, hsub List.mem_cons_self, hrole⟩

/-- Inside elements that show their content a string that is read is seen, when there is room. -/
theorem of_showsContent {kind : StringKind} (hkind : kind.isRead = true)
    (hlayers : ∀ l ∈ layers, (Role.ofName l.name).showsContent = true)
    (hroom : layers.length ≤ room) : Leads (SeenAt kind) .content room layers := by
  induction layers generalizing room with
  | nil => exact .here (.read hkind)
  | cons l layers ih =>
    obtain ⟨hl, hlayers⟩ := List.forall_mem_cons.mp hlayers
    obtain ⟨room, rfl⟩ := Nat.exists_eq_add_of_le' (Nat.zero_lt_of_lt hroom)
    exact .frame hl (ih hlayers (Nat.le_of_succ_le_succ hroom))

end Leads

/-! ## What is shown -/

/-- All that is seen of a string is seen in an output: as it is written, or with its references
resolved. -/
def Contributes (t u : Text) : Prop :=
  ∃ s, (s = t ∨ Reference.resolveAll t = .ok s) ∧ InkWithin s u

theorem Contributes.trans {t u w : Text} (h : Contributes t u) (hw : InkWithin u w) :
    Contributes t w := by
  obtain ⟨s, hs, hwithin⟩ := h
  exact ⟨s, hs, hwithin.trans hw⟩

namespace Marked

variable {α β : Type} {p : α → Prop} {q : β → Prop}

/-- Unless some string was refused, the result has a property. -/
def Bears (m : Marked α) (p : α → Prop) : Prop := m.marks.any Mark.isFault = false → p m.value

theorem Bears.map {m : Marked α} (h : m.Bears p) {f : α → β} (hf : ∀ a, p a → q (f a)) :
    (m.map f).Bears q :=
  fun hsound => hf _ (h hsound)

/-- What goes on around a result does not touch what it bears. -/
theorem Bears.between {p : List α → Prop} {n : Marked (List α)} (h : n.Bears p)
    (hp : ∀ a b c, p b → p (a ++ b ++ c)) (m o : Marked (List α)) : (m ++ n ++ o).Bears p := by
  intro hsound
  simp only [marks_append, List.any_append, Bool.or_eq_false_iff] at hsound
  exact hp _ _ _ (h hsound.1.2)

end Marked

namespace View

/-- A walk shows a text among nodes, unless it refuses some string: in the Markdown, in the items,
or in one of the cells. -/
def Shows (t : Text) (room : Nat) (nodes : List Node) : View → Prop
  | content => ∀ depth, (walkAll room depth nodes).Bears (Contributes t)
  | items => ∀ depth, (walkItems room depth nodes).Bears fun items => Contributes t items.flatten
  | rows => ∀ inHead, (walkRows room inHead nodes).Bears
      fun rows => ∃ r ∈ rows, ∃ cell ∈ r.cells, Contributes t cell
  | cells => (walkCells room nodes).Bears fun cells => ∃ cell ∈ cells.1, Contributes t cell

/-- What is shown of a node is shown among its siblings. -/
theorem Shows.among {t : Text} {room : Nat} {node : Node} {v : View} (h : v.Shows t room [node])
    (before after : List Node) : v.Shows t room (before ++ node :: after) := by
  rw [List.append_cons]
  cases v with
  | content =>
    intro depth
    rw [walkAll_append, walkAll_append]
    exact (h depth).between (fun a b c hb => hb.trans (inkWithin_between a b c)) _ _
  | items =>
    intro depth
    rw [walkItems_append, walkItems_append]
    refine (h depth).between (fun a b c hb => hb.trans ?_) _ _
    rw [List.flatten_append, List.flatten_append]
    exact inkWithin_between _ _ _
  | rows =>
    intro inHead
    rw [walkRows_append, walkRows_append]
    refine (h inHead).between (fun a b c hb => ?_) _ _
    obtain ⟨r, hr, hshown⟩ := hb
    exact ⟨r, List.mem_append_left _ (List.mem_append_right _ hr), hshown⟩
  | cells =>
    intro hsound
    rw [walkCells_append, walkCells_append] at hsound ⊢
    simp only [List.any_append, Bool.or_eq_false_iff] at hsound
    obtain ⟨cell, hcell, hshown⟩ := h hsound.1.2
    exact ⟨cell, List.mem_append_left _ (List.mem_append_right _ hcell), hshown⟩

/-- A walk finds the same among two lists of nodes. -/
def Agrees (room : Nat) (nodes nodes' : List Node) : View → Prop
  | content => ∀ depth, walkAll room depth nodes = walkAll room depth nodes'
  | items => ∀ depth, walkItems room depth nodes = walkItems room depth nodes'
  | rows => ∀ inHead, walkRows room inHead nodes = walkRows room inHead nodes'
  | cells => walkCells room nodes = walkCells room nodes'

/-- A difference that is not seen in a node is not seen among its siblings. -/
theorem Agrees.among {room : Nat} {node node' : Node} {v : View}
    (h : v.Agrees room [node] [node']) (before after : List Node) :
    v.Agrees room (before ++ node :: after) (before ++ node' :: after) := by
  rw [List.append_cons, List.append_cons before node']
  cases v with
  | content =>
    intro depth
    rw [walkAll_append, walkAll_append, h depth, ← walkAll_append, ← walkAll_append]
  | items =>
    intro depth
    rw [walkItems_append, walkItems_append, h depth, ← walkItems_append, ← walkItems_append]
  | rows =>
    intro inHead
    rw [walkRows_append, walkRows_append, h inHead, ← walkRows_append, ← walkRows_append]
  | cells =>
    have hcells : walkCells room [node] = walkCells room [node'] := h
    show walkCells room _ = walkCells room _
    rw [walkCells_append, walkCells_append, hcells, ← walkCells_append, ← walkCells_append]

end View

/-! ## Elements on the way -/

/-- How an element is shown depends on what it holds only if it gathers the text of it. -/
theorem shown_congr {name : Text} {kids kids' : List Node}
    (h : (Role.ofName name).gathersText = true → Node.innerText kids = Node.innerText kids')
    (attributes : Attributes) : shown name attributes kids = shown name attributes kids' := by
  rw [shown, shown]
  cases hrole : Role.ofName name <;> rw [hrole] at h <;> first | rfl | rw [h rfl]

/-- An element whose role is to show its content does so whatever it holds. -/
theorem exists_frame {name : Text} (h : (Role.ofName name).showsContent = true)
    (attributes : Attributes) :
    ∃ frame, ∀ kids, shown name attributes kids = .content frame := by
  cases hrole : Role.ofName name <;> rw [hrole] at h <;>
    first | exact ⟨_, fun kids => by rw [shown, hrole]⟩ | cases h

theorem showsContent_of_shown {name : Text} {attributes : Attributes} {kids : List Node}
    {frame : Text → Text} (h : shown name attributes kids = .content frame) :
    (Role.ofName name).showsContent = true := by
  rw [shown] at h
  cases hrole : Role.ofName name <;> rw [hrole] at h <;> first | rfl | cases h

/-- What an element gathers is shown in it. -/
theorem inkWithin_gathered {name : Text} (h : (Role.ofName name).gathersText = true)
    (attributes : Attributes) (kids : List Node) :
    ∃ u, shown name attributes kids = .fixed u ∧ InkWithin (Node.innerText kids) u := by
  cases hrole : Role.ofName name <;> rw [hrole] at h <;> try cases h
  · exact ⟨_, by rw [shown, hrole], inkWithin_codeMarkdown _⟩
  · exact ⟨_, by rw [shown, hrole], inkWithin_preformattedMarkdown _⟩

/-- A string stands in the text of any layers around it, if it belongs to a text around it. -/
theorem exists_innerText_nest (layers : List Layer) (before after : List Node)
    (kind : StringKind) :
    ∃ front back, ∀ t, Node.innerText (nest layers (before ++ .text kind t :: after)) =
      front ++ (if kind.isInnerText then t else []) ++ back := by
  induction layers with
  | nil =>
    refine ⟨Node.innerText before, Node.innerText after, fun t => ?_⟩
    rw [nest_nil, Node.innerText_append, Node.innerText_text, List.append_assoc]
  | cons l layers ih =>
    obtain ⟨front, back, hinner⟩ := ih
    refine ⟨Node.innerText l.before ++ front, back ++ Node.innerText l.after, fun t => ?_⟩
    rw [nest_cons, Layer.around, Node.innerText_append, Layer.element, Node.innerText_element,
      hinner]
    simp only [List.append_assoc]

namespace View

variable {t : Text} {room : Nat} {nodes : List Node}

/-- A string that is read is shown. -/
theorem shows_string {kind : StringKind} (h : kind.isRead = true) (t : Text) (room : Nat) :
    content.Shows t room [.text kind t] := by
  intro depth
  rw [walkAll_singleton, walk, if_pos h, stringMarkdown, shownText]
  cases hresolved : Reference.resolveAll t with
  | error n =>
    intro hsound
    cases hsound
  | ok s => exact fun _ => ⟨s, .inr hresolved, .of_eq (ink_squeeze s).symm⟩

/-- A string that an element gathers is shown in it. -/
theorem shows_gathered {name : Text} (hrole : (Role.ofName name).gathersText = true)
    (attributes : Attributes) (h : InkWithin t (Node.innerText nodes)) :
    content.Shows t (room + 1) [.element name attributes nodes] := by
  intro depth
  obtain ⟨u, hu, hwithin⟩ := inkWithin_gathered hrole attributes nodes
  rw [walkAll_singleton, walk_element_succ, hu]
  exact fun _ => ⟨t, .inl rfl, h.trans hwithin⟩

theorem Shows.frame {name : Text} (hrole : (Role.ofName name).showsContent = true)
    (attributes : Attributes) (h : content.Shows t room nodes) :
    content.Shows t (room + 1) [.element name attributes nodes] := by
  intro depth
  obtain ⟨frame, hframe⟩ := exists_frame hrole attributes
  rw [walkAll_singleton, walk_element_succ, hframe]
  exact (h depth).map fun u hu => hu.trans (inkWithin_frame (hframe []) u)

theorem Shows.list {name : Text} {ordered : Bool} (hrole : Role.ofName name = .list ordered)
    (attributes : Attributes) (h : items.Shows t room nodes) :
    content.Shows t (room + 1) [.element name attributes nodes] := by
  intro depth
  rw [walkAll_singleton, walk_element_succ, shown, hrole]
  exact (h depth).map fun found hfound => hfound.trans (inkWithin_renderList ordered depth found)

theorem Shows.table (attributes : Attributes) (h : rows.Shows t room nodes) :
    content.Shows t (room + 1) [.element "table".toList attributes nodes] := by
  have hrole : Role.ofName "table".toList = .table := by decide
  intro depth hsound
  rw [walkAll_singleton, walk_element_succ, shown, hrole] at hsound ⊢
  rw [any_marks_tableMarkdown fun _ => rfl] at hsound
  obtain ⟨r, hr, cell, hcell, hshown⟩ := h false hsound
  exact hshown.trans ((inkWithin_of_mem hcell).trans (inkWithin_renderTable hr))

theorem Shows.item {name : Text} (hname : lower name = "li".toList) (attributes : Attributes)
    (h : content.Shows t room nodes) : items.Shows t room [.element name attributes nodes] := by
  intro depth
  rw [walkItems, if_pos hname, walkItems, Marked.append_clear]
  exact (h (depth + 1)).map fun u hu => hu.trans (.of_eq (ink_item u).symm)

theorem Shows.deeper {name : Text} (hname : name ≠ "table".toList) (attributes : Attributes)
    (h : rows.Shows t room nodes) : rows.Shows t room [.element name attributes nodes] := by
  intro inHead
  rw [walkRows, if_neg hname, walkRows]
  refine (h _).between (fun a b c hb => ?_) _ _
  obtain ⟨r, hr, hshown⟩ := hb
  exact ⟨r, List.mem_append_left _ (List.mem_append_right _ hr), hshown⟩

theorem Shows.row (attributes : Attributes) (h : cells.Shows t room nodes) :
    rows.Shows t room [.element "tr".toList attributes nodes] := by
  have hne : "tr".toList ≠ "table".toList := by decide
  intro inHead hsound
  rw [walkRows, if_neg hne, if_pos rfl, walkRows, Marked.append_clear] at hsound ⊢
  rw [Marked.marks_append, List.any_append, Bool.or_eq_false_iff] at hsound
  obtain ⟨cell, hcell, hshown⟩ := h hsound.1
  have hfilled : (walkCells room nodes).value.1.isEmpty = false :=
    List.isEmpty_eq_false_iff.mpr (List.ne_nil_of_mem hcell)
  rw [rowOf, Marked.map, hfilled]
  exact ⟨_, List.mem_append_left _ List.mem_cons_self, cell, hcell, hshown⟩

theorem Shows.cell {name : Text} (hname : lower name = "th".toList ∨ lower name = "td".toList)
    (attributes : Attributes) (h : content.Shows t room nodes) :
    cells.Shows t room [.element name attributes nodes] := by
  have hcell : (decide (lower name = "th".toList) || decide (lower name = "td".toList)) = true := by
    simpa using hname
  intro hsound
  rw [walkCells, if_pos hcell, walkCells] at hsound ⊢
  rw [List.any_append, Bool.or_eq_false_iff] at hsound
  refine ⟨_, List.mem_append_left _ List.mem_cons_self, (h 0 hsound.1).trans ?_⟩
  exact .of_eq (by rw [ink_normalizeCell, ink_trim])

/-- Two texts in one place are not told apart by an element that does not look for them. -/
theorem agrees_text {kind : StringKind} {v : View} (h : v = content → kind.isRead = false)
    (room : Nat) (t t' : Text) : v.Agrees room [.text kind t] [.text kind t'] := by
  cases v with
  | content =>
    intro depth
    have hkind := h rfl
    rw [walkAll_singleton, walkAll_singleton, walk, walk, hkind]
    rfl
  | items => exact fun depth => by simp only [walkItems]
  | rows => exact fun inHead => by simp only [walkRows]
  | cells => show walkCells room _ = walkCells room _; simp only [walkCells]

section Element

variable {name : Text} {nodes' : List Node}

/-- An element that is entered looks at what it holds in the way of its role. -/
theorem agrees_content (attributes : Attributes)
    (hgathers : (Role.ofName name).gathersText = true →
      Node.innerText nodes = Node.innerText nodes')
    (hcontent : (Role.ofName name).showsContent = true → content.Agrees room nodes nodes')
    (hitems : ∀ ordered, Role.ofName name = .list ordered → items.Agrees room nodes nodes')
    (hrows : name = "table".toList → rows.Agrees room nodes nodes') :
    content.Agrees (room + 1) [.element name attributes nodes]
      [.element name attributes nodes'] := by
  intro depth
  rw [walkAll_singleton, walkAll_singleton, walk_element_succ, walk_element_succ,
    ← shown_congr hgathers]
  cases hway : shown name attributes nodes with
  | fixed u => rfl
  | content frame => exact congrArg (Marked.map frame) (hcontent (showsContent_of_shown hway) depth)
  | items ordered =>
    have hfound := hitems ordered (role_of_items hway) depth
    exact congrArg (Marked.map (renderList ordered depth)) hfound
  | rows =>
    have htable : tableRowsOf room name nodes = tableRowsOf room name nodes' := by
      rw [tableRowsOf, tableRowsOf]
      split
      · exact hrows ‹_› false
      · rfl
    exact congrArg tableMarkdown htable

theorem agrees_items (attributes : Attributes)
    (h : lower name = "li".toList → content.Agrees room nodes nodes') :
    items.Agrees room [.element name attributes nodes] [.element name attributes nodes'] := by
  intro depth
  simp only [walkItems]
  split
  · rw [h ‹_› (depth + 1)]
  · rfl

theorem agrees_rows (attributes : Attributes)
    (hrow : name = "tr".toList → cells.Agrees room nodes nodes')
    (hdeeper : name ≠ "table".toList → rows.Agrees room nodes nodes') :
    rows.Agrees room [.element name attributes nodes] [.element name attributes nodes'] := by
  intro inHead
  simp only [walkRows]
  split
  · rfl
  · rw [hdeeper ‹_›]
    split
    · have hcells : walkCells room nodes = walkCells room nodes' := hrow ‹_›
      rw [hcells]
    · rfl

theorem agrees_cells (attributes : Attributes)
    (h : lower name = "th".toList ∨ lower name = "td".toList → content.Agrees room nodes nodes') :
    cells.Agrees room [.element name attributes nodes] [.element name attributes nodes'] := by
  show walkCells room _ = walkCells room _
  simp only [walkCells]
  split
  · rename_i hname
    rw [h (by simpa using hname) 0]
  · rfl

end Element

end View

/-! ## Ways to a string -/

/-- Where the way leads to a string that is seen, it is shown. -/
theorem Leads.shows {kind : StringKind} {v : View} {room : Nat} {layers : List Layer}
    (h : Leads (SeenAt kind) v room layers) (before after : List Node) (t : Text) :
    v.Shows t room (nest layers (before ++ .text kind t :: after)) := by
  induction h with
  | here hseen =>
    cases hseen with
    | read hread => exact (View.shows_string hread t _).among before after
    | @gathered room l layers hrole hinner =>
      obtain ⟨front, back, htext⟩ := exists_innerText_nest layers before after kind
      have hwithin : InkWithin t
          (Node.innerText (nest layers (before ++ .text kind t :: after))) := by
        rw [htext, if_pos hinner]
        exact inkWithin_between _ _ _
      exact (View.shows_gathered hrole l.attributes hwithin).among _ _
  | frame hrole _ ih => exact (View.Shows.frame hrole _ ih).among _ _
  | list hrole _ ih => exact (View.Shows.list hrole _ ih).among _ _
  | @table room l layers hname _ ih =>
    exact (hname ▸ View.Shows.table l.attributes ih).among _ _
  | item hname _ ih => exact (View.Shows.item hname _ ih).among _ _
  | deeper hname _ ih => exact (View.Shows.deeper hname _ ih).among _ _
  | @row room l layers hname _ ih => exact (hname ▸ View.Shows.row l.attributes ih).among _ _
  | cell hname _ ih => exact (View.Shows.cell hname _ ih).among _ _

/-- Where no way leads to a string, whatever it says makes no difference. -/
theorem agrees_of_not_leads {kind : StringKind} {layers : List Layer} {v : View} {room : Nat}
    (h : ¬ Leads (SeenAt kind) v room layers) (before after : List Node) (t t' : Text) :
    v.Agrees room (nest layers (before ++ .text kind t :: after))
      (nest layers (before ++ .text kind t' :: after)) := by
  induction layers generalizing v room with
  | nil =>
    refine (View.agrees_text (fun hv => ?_) room t t').among before after
    subst hv
    exact Bool.eq_false_iff.mpr fun hread => h (.here (.read hread))
  | cons l layers ih =>
    refine View.Agrees.among ?_ l.before l.after
    cases v with
    | content =>
      cases room with
      | zero =>
        intro depth
        rw [walkAll_singleton, walkAll_singleton, Layer.element, Layer.element, walk_element_zero,
          walk_element_zero]
      | succ room =>
        refine View.agrees_content l.attributes (fun hrole => ?_)
          (fun hrole => ih fun hleads => h (.frame hrole hleads))
          (fun ordered hrole => ih fun hleads => h (.list hrole hleads))
          (fun hname => ih fun hleads => h (.table hname hleads))
        obtain ⟨front, back, htext⟩ := exists_innerText_nest layers before after kind
        have hkind : ¬ kind.isInnerText = true := fun hinner => h (.here (.gathered hrole hinner))
        simp only [if_neg hkind] at htext
        exact (htext t).trans (htext t').symm
    | items => exact View.agrees_items _ fun hname => ih fun hleads => h (.item hname hleads)
    | rows =>
      exact View.agrees_rows _ (fun hname => ih fun hleads => h (.row hname hleads))
        fun hname => ih fun hleads => h (.deeper hname hleads)
    | cells => exact View.agrees_cells _ fun hname => ih fun hleads => h (.cell hname hleads)

/-! ## Documents -/

/-- A document with a string in some place shows it, whatever it says, whenever it is converted. -/
def Displays (document : Text → Except Fault Text) : Prop :=
  ∀ t u, document t = .ok u → Contributes t u

/-- A document with a string in some place is converted in the same way, whatever the string
says. -/
def Hides (document : Text → Except Fault Text) : Prop := ∀ t t', document t = document t'

/-- A document that is converted does not show what it hides: no output has room for all texts. -/
theorem Hides.not_displays {document : Text → Except Fault Text} (h : Hides document) {t u : Text}
    (hu : document t = .ok u) : ¬ Displays document := by
  intro hdisplays
  have hlong : '&' ∉ List.replicate (u.length + 1) 'x' := by simp
  obtain ⟨s, hs, hwithin⟩ := hdisplays (List.replicate (u.length + 1) 'x') u ((h _ _).trans hu)
  have hs : s = List.replicate (u.length + 1) 'x' := by
    refine hs.elim id fun hresolved => ?_
    rw [Reference.resolveAll, resolveFrom_plain hlong] at hresolved
    exact (Except.ok.inj hresolved).symm
  have hink : ink s = List.replicate (u.length + 1) 'x' := by
    rw [hs, ink, List.filter_replicate_of_pos (by decide)]
  have hlength := List.Sublist.length_le hwithin
  rw [hink, List.length_replicate] at hlength
  exact absurd (hlength.trans (List.length_filter_le _ _)) (Nat.not_succ_le_self _)

namespace Converter

/-- The Markdown of a document by what one string of it says, which stands inside layers and between
its siblings. -/
def textAround (c : Converter) (layers : List Layer) (before after : List Node)
    (kind : StringKind) (t : Text) : Except Fault Text :=
  c.documentText (nest layers (before ++ .text kind t :: after))

variable {kind : StringKind} {layers : List Layer} {c : Converter}

/-- A string that is seen is shown by the document. -/
theorem displays_of_leads (h : Leads (SeenAt kind) .content c.room layers)
    (before after : List Node) : Displays (c.textAround layers before after kind) := by
  intro t u hu
  rw [textAround, documentText_eq, unlessRefused_eq_ok_iff] at hu
  obtain ⟨hrefused, rfl⟩ := hu
  refine (h.shows before after t 0 ?_).trans (.of_eq (ink_settle _).symm)
  rw [any_isFault, hrefused]
  rfl

/-- A string that is not seen is hidden by the document. -/
theorem hides_of_not_leads (h : ¬ Leads (SeenAt kind) .content c.room layers)
    (before after : List Node) : Hides (c.textAround layers before after kind) := by
  intro t t'
  rw [textAround, textAround, documentText_eq, documentText_eq,
    agrees_of_not_leads h before after t t' 0]

end Converter

end PageMarkdown.Markdown
