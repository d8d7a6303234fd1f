import PageMarkdown.Markdown.Session
import PageMarkdown.Proofs.Element
import PageMarkdown.Proofs.Html.Node
import PageMarkdown.Proofs.Marks

/-!
# A converter in use

From every state, what is done with a converter comes to what the walk finds in
the room that is left there: the marks of the walk are told up to the first
fault, a cut among them is remembered, and the count of elements is back where it
was. A converter that has answered calls therefore answers the next one as a
fresh one does.
-/

namespace PageMarkdown.Markdown

open Text Html

variable {α β γ : Type} {limit : Int}

/-! ## Results of a walk as uses of a converter -/

/-- The use of a converter that comes to a result: it tells the marks up to the first fault, and
remembers a cut among them. -/
def Marked.use (limit : Int) (m : Marked α) : Use α := fun s =>
  ({ s with truncated := s.truncated || (told m.marks).any Mark.isCut },
    (tellMarks limit s.truncated m.marks).andThen fun _ => .ok m.value)

/-- Using a converter ends with the result, unless a mark refuses a numeral. -/
theorem Marked.outcome_use (m : Marked α) (s : Progress) :
    (m.use limit s).2.outcome = unlessRefused (m.marks.findSome? Mark.refused?) m.value := by
  rw [Marked.use, outcome_tellMarks_andThen]
  cases m.marks.findSome? Mark.refused? <;> rfl

/-- Using a converter tells the marks and nothing else. -/
theorem Marked.events_use (m : Marked α) (s : Progress) :
    (m.use limit s).2.events = (tellMarks limit s.truncated m.marks).events :=
  Report.events_andThen_silent _ _ fun _ => rfl

/-- Finishing a walk tells the same, ends the same way and keeps the same flag. -/
theorem Marked.finish_eq (m : Marked α) (s : Progress) :
    Converter.finish ⟨limit, s.truncated⟩ m =
      ⟨(m.use limit s).2.events,
        (m.use limit s).2.outcome.map fun a => (a, ⟨limit, (m.use limit s).1.truncated⟩)⟩ := by
  rw [Converter.finish, Marked.use]
  cases hfault : m.marks.any Mark.isFault with
  | true =>
    obtain ⟨e, he⟩ := exists_fault_tellMarks limit s.truncated hfault
    simp [Report.andThen, he, Except.map]
  | false =>
    have htold := (tellMarks_outcome_iff limit s.truncated _ _).mpr ⟨hfault, rfl⟩
    simp [Report.andThen, htold, told_of_sound hfault, Except.map, Report.ok]

/-- One result behind another one that it depends on. -/
def Marked.bind (m : Marked α) (n : α → Marked β) : Marked β :=
  ⟨(n m.value).value, m.marks ++ (n m.value).marks⟩

/-- What a result is followed by tells its own marks, unless a mark before them is a fault. -/
theorem Marked.use_bind (m : Marked α) (n : α → Marked β) :
    (m.use limit >>= fun a => (n a).use limit) = (m.bind n).use limit := by
  funext s
  show Report.thenOn (m.use limit s) (fun a => (n a).use limit) = _
  cases hfault : m.marks.any Mark.isFault with
  | true =>
    obtain ⟨e, he⟩ := exists_fault_tellMarks limit s.truncated hfault
    simp [Report.thenOn, Marked.use, Marked.bind, told_append, hfault, tellMarks_append,
      Report.andThen, he]
  | false =>
    have htold := (tellMarks_outcome_iff limit s.truncated _ _).mpr ⟨hfault, rfl⟩
    cases hn : (tellMarks limit (s.truncated || m.marks.any Mark.isCut)
        (n m.value).marks).outcome <;>
      simp [Report.thenOn, Marked.use, Marked.bind, told_append, hfault, tellMarks_append,
        Report.andThen, htold, told_of_sound, hn, Bool.or_assoc]

/-! ## Following a walk -/

/-- The room that is left in a state. -/
def Progress.room (limit : Int) (s : Progress) : Nat := (limit - s.level).toNat

/-- From every state the use of a converter comes to what a walk finds in the room that is left. -/
def Use.Follows (limit : Int) (use : Use α) (walked : Nat → Marked α) : Prop :=
  ∀ s, use s = (walked (s.room limit)).use limit s

/-- What the walk finds at an element that has so much room: a cut, or what is inside. -/
def entered (name : Text) (inside : Nat → Marked Text) : Nat → Marked Text
  | 0 => ⟨[], [.cut name]⟩
  | room + 1 => inside room

namespace Use.Follows

/-- What leaves the converter as it is. -/
theorem pure (a : α) : Follows limit (Pure.pure a) fun _ => .clear a := by
  intro s
  simp [Marked.use, Marked.clear, told, tellMarks, Report.andThen, Report.ok]
  rfl

/-- A use leaves the level where it was, so that what follows has the same room. -/
theorem bind {use : Use α} {next : α → Use β} {m : Nat → Marked α} {n : Nat → α → Marked β}
    (h : Follows limit use m) (hnext : ∀ a, Follows limit (next a) fun room => n room a) :
    Follows limit (use >>= next) fun room => (m room).bind (n room) := by
  intro s
  rw [← Marked.use_bind]
  show Report.thenOn (use s) next = Report.thenOn _ _
  rw [h s]
  exact Report.thenOn_congr fun a => hnext a _

theorem map {use : Use α} {m : Nat → Marked α} (h : Follows limit use m) (f : α → β) :
    Follows limit (f <$> use) fun room => (m room).map f := by
  show Follows limit (use >>= fun a => Pure.pure (f a)) _
  have hbind := h.bind fun a => pure (f a)
  simpa only [Marked.bind, Marked.map, Marked.clear, List.append_nil] using hbind

/-- Two uses, one after the other, whose results are put together. -/
theorem both {use : Use α} {use' : Use β} {m : Nat → Marked α} {n : Nat → Marked β}
    (h : Follows limit use m) (h' : Follows limit use' n) (f : α → β → γ) :
    Follows limit (do let a ← use; let b ← use'; return f a b) fun room =>
      ⟨f (m room).value (n room).value, (m room).marks ++ (n room).marks⟩ := by
  have hbind := h.bind fun a => h'.map (f a)
  exact hbind

theorem append {use use' : Use (List α)} {m n : Nat → Marked (List α)} (h : Follows limit use m)
    (h' : Follows limit use' n) : Follows limit (use ++ use') fun room => m room ++ n room :=
  h.both h' (· ++ ·)

/-- An element that is entered has one unit of room less, and the count is back behind it. -/
theorem entering (name : Text) {use : Use Text} {m : Nat → Marked Text} (h : Follows limit use m) :
    Follows limit (Use.entering limit name use) (entered name m) := by
  intro s
  rw [Use.entering]
  split
  · have hroom : s.room limit = 0 := by
      rw [Progress.room]
      omega
    rw [hroom, entered]
    cases hs : s.truncated <;>
      simp [Use.cut, Marked.use, told, tellMarks, Mark.isCut, Report.andThen, hs, Report.tell,
        Report.ok]
  · have hroom : s.room limit = Progress.room limit { s with level := s.level + 1 } + 1 := by
      simp only [Progress.room]
      omega
    rw [hroom, entered, Use.inside, h]
    simp [Marked.use]

/-- A string that cannot be shown ends the use where it is. -/
theorem report_string (t : Text) :
    Follows limit (Use.report (.ofExcept .longNumeral (shownText t)))
      fun _ => stringMarkdown t := by
  intro s
  rw [stringMarkdown]
  cases shownText t with
  | ok shown => exact pure shown s
  | error n =>
    simp [Use.report, Report.ofExcept, Report.fault, Marked.use, told, tellMarks, Report.andThen]

theorem row (inHead : Bool) {use : Use (List Text × Bool)} {m : Nat → Marked (List Text × Bool)}
    (h : Follows limit use m) :
    Follows limit (use >>= Use.row inHead) fun room => rowOf inHead (m room) :=
  h.map _

theorem table_rows (rows : List TableRow) :
    Follows limit (Use.table rows) fun _ => tableMarkdown (.clear rows) := by
  by_cases hhollow : isHollow rows
  · intro s
    simp [Use.table, Use.report, tableMarkdown, Marked.use, Marked.clear, hhollow, told, tellMarks,
      Mark.isCut, Report.andThen, Report.tell, Report.ok]
  · have hclear : tableMarkdown (.clear rows) = .clear (renderTable rows) := by
      simp [tableMarkdown, Marked.clear, hhollow]
    rw [Use.table, if_neg hhollow, hclear]
    exact pure (renderTable rows)

theorem table {use : Use (List TableRow)} {m : Nat → Marked (List TableRow)}
    (h : Follows limit use m) :
    Follows limit (use >>= Use.table) fun room => tableMarkdown (m room) := by
  have hbind := h.bind table_rows
  exact hbind

end Use.Follows

/-! ## The uses on nodes -/

/-- The uses of a converter on nodes follow the walks over them. -/
structure FollowingUses (limit : Int) (nodes : List Node) : Prop where
  /-- As running text. -/
  content (depth : Nat) :
    (useAll limit depth nodes).Follows limit fun room => walkAll room depth nodes
  /-- As the children of a list. -/
  items (depth : Nat) :
    (useItems limit depth nodes).Follows limit fun room => walkItems room depth nodes
  /-- Below a table. -/
  rows (inHead : Bool) :
    (useRows limit inHead nodes).Follows limit fun room => walkRows room inHead nodes
  /-- As the children of a row. -/
  cells : (useCells limit nodes).Follows limit fun room => walkCells room nodes

theorem useNode_text_follows (depth : Nat) (kind : StringKind) (content : Text) :
    (useNode limit depth (.text kind content)).Follows limit fun room =>
      walk room depth (.text kind content) := by
  simp only [useNode, walk]
  cases kind.isRead
  · exact .pure []
  · exact .report_string content

/-- An element follows its walk when its children do: it is cut, or entered and shown in its way. -/
theorem useNode_element_follows (depth : Nat) (name : Text) (attributes : Attributes)
    {kids : List Node} (hkids : FollowingUses limit kids) :
    (useNode limit depth (.element name attributes kids)).Follows limit fun room =>
      walk room depth (.element name attributes kids) := by
  have hwalk : (fun room => walk room depth (.element name attributes kids)) =
      entered name fun room => walk (room + 1) depth (.element name attributes kids) := by
    funext room
    cases room with
    | zero => exact walk_element_zero depth name attributes kids
    | succ room => rfl
  rw [useNode, hwalk]
  refine .entering name ?_
  simp only [walk_element_succ]
  cases shown name attributes kids with
  | fixed t => exact .pure t
  | content frame => exact (hkids.content depth).map frame
  | items ordered => exact (hkids.items depth).map (renderList ordered depth)
  | rows =>
    have hrows : Use.Follows limit
        (if name = "table".toList then useRows limit false kids else pure [])
        fun room => tableRowsOf room name kids := by
      simp only [tableRowsOf]
      split
      · exact hkids.rows false
      · exact .pure []
    exact hrows.table

namespace FollowingUses

theorem nil : FollowingUses limit [] := by
  constructor
  · intro depth
    simp only [useAll, walkAll]
    exact .pure []
  · intro depth
    simp only [useItems, walkItems]
    exact .pure []
  · intro inHead
    simp only [useRows, walkRows]
    exact .pure []
  · simp only [useCells, walkCells]
    exact .pure ([], false)

theorem text {others : List Node} (hothers : FollowingUses limit others) (kind : StringKind)
    (content : Text) : FollowingUses limit (.text kind content :: others) := by
  constructor
  · intro depth
    simp only [useAll, walkAll]
    exact (useNode_text_follows depth kind content).append (hothers.content depth)
  · intro depth
    simp only [useItems, walkItems]
    exact hothers.items depth
  · intro inHead
    simp only [useRows, walkRows]
    exact hothers.rows inHead
  · simp only [useCells, walkCells]
    exact hothers.cells

theorem element {kids others : List Node} (hkids : FollowingUses limit kids)
    (hothers : FollowingUses limit others) (name : Text) (attributes : Attributes) :
    FollowingUses limit (.element name attributes kids :: others) := by
  constructor
  · intro depth
    simp only [useAll, walkAll]
    exact (useNode_element_follows depth name attributes hkids).append (hothers.content depth)
  · intro depth
    simp only [useItems, walkItems]
    split
    · exact ((hkids.content (depth + 1)).map _).append (hothers.items depth)
    · exact hothers.items depth
  · intro inHead
    simp only [useRows, walkRows]
    refine Use.Follows.append ?_ (hothers.rows inHead)
    split
    · exact .pure []
    · refine Use.Follows.append ?_ (hkids.rows _)
      split
      · exact hkids.cells.row inHead
      · exact .pure []
  · simp only [useCells, walkCells]
    split
    · exact (hkids.content 0).both hothers.cells _
    · exact hothers.cells

end FollowingUses

/-- Whatever the nodes, the uses of a converter on them follow the walks. -/
theorem followingUses (limit : Int) (nodes : List Node) : FollowingUses limit nodes := by
  induction nodes using Node.forest_induction with
  | nil => exact .nil
  | text kind content others ih => exact ih.text kind content
  | element name attributes kids others ihKids ih => exact ihKids.element ih name attributes

/-! ## Calls -/

namespace Call

/-- What the walk of a call finds. -/
def walked (room : Nat) : Call → Marked Text
  | node depth tree => walk room depth tree
  | content depth nodes => walkAll room depth nodes
  | document nodes => (walkAll room 0 nodes).map Converter.settle

/-- The answer of a converter that starts with the call. -/
def convert (c : Converter) : Call → Report (Text × Converter)
  | node depth tree => c.convert depth tree
  | content depth nodes => c.convertAll depth nodes
  | document nodes => c.convertDocument nodes

theorem convert_eq_finish (c : Converter) (call : Call) :
    call.convert c = c.finish (call.walked c.room) := by
  cases call <;> rfl

/-- An answer follows the walk of its call. -/
theorem use_follows (call : Call) :
    (call.use limit).Follows limit fun room => call.walked room := by
  cases call with
  | node depth tree =>
    cases tree with
    | text kind content => exact useNode_text_follows depth kind content
    | element name attributes kids =>
      exact useNode_element_follows depth name attributes (followingUses limit kids)
  | content depth nodes => exact (followingUses limit nodes).content depth
  | document nodes => exact ((followingUses limit nodes).content 0).map Converter.settle

/-- The call cuts an element when a fresh converter answers it. -/
def cuts (limit : Int) (call : Call) : Bool := (call.use limit .fresh).1.truncated

section

variable {s : Progress}

/-- Between calls the converter has all of its room. -/
theorem use_eq (call : Call) (hs : s.level = 0) :
    call.use limit s = (call.walked limit.toNat).use limit s := by
  rw [call.use_follows s, Progress.room, hs, Int.sub_zero]

theorem cuts_eq (call : Call) :
    call.cuts limit = (told (call.walked limit.toNat).marks).any Mark.isCut := by
  rw [cuts, use_eq call rfl]
  exact Bool.false_or _

/-- The answer to a call does not depend on the calls before it. -/
theorem outcome_use (call : Call) (hs : s.level = 0) :
    (call.use limit s).2.outcome = (call.use limit .fresh).2.outcome := by
  rw [use_eq call hs, use_eq call rfl, Marked.outcome_use, Marked.outcome_use]

/-- A call leaves the converter outside of all elements, and a cut is remembered. -/
theorem state_use (call : Call) (hs : s.level = 0) :
    (call.use limit s).1 = ⟨0, s.truncated || call.cuts limit⟩ := by
  rw [use_eq call hs, cuts_eq, ← hs]
  rfl

/-- A call tells a cut unless one has been told before. -/
theorem count_truncations_use (call : Call) (hs : s.level = 0) :
    (call.use limit s).2.events.countP Event.isTruncation =
      (!s.truncated && call.cuts limit).toNat := by
  rw [use_eq call hs, Marked.events_use, count_truncations, cuts_eq]

end

/-- A fresh converter answers as one in use does, and keeps the same flag. -/
theorem convert_eq (call : Call) :
    call.convert ⟨limit, false⟩ =
      ⟨(call.use limit .fresh).2.events, (call.use limit .fresh).2.outcome.map fun t =>
        (t, ⟨limit, call.cuts limit⟩)⟩ := by
  rw [convert_eq_finish, cuts, use_eq call rfl]
  exact Marked.finish_eq (call.walked limit.toNat) .fresh

end Call

/-- A converter that has answered calls is as good as a fresh one. -/
structure Reusable (limit : Int) (calls : List Call) : Prop where
  /-- What a fresh converter does with a call is what a `Converter` of the limit does. -/
  fresh (call : Call) : call.convert ⟨limit, false⟩ =
    ⟨(call.use limit .fresh).2.events, (call.use limit .fresh).2.outcome.map fun t =>
      (t, ⟨limit, call.cuts limit⟩)⟩
  /-- Each call is answered as by a fresh converter. -/
  answers : (answerAll limit calls .fresh).2.map Report.outcome =
    calls.map fun call => (call.use limit .fresh).2.outcome
  /-- No call changes the count of elements, in whichever state it is made and however it ends. -/
  level (call : Call) (s : Progress) : (call.use limit s).1.level = s.level
  /-- Behind the calls the count is zero, and the flag is set when one of the fresh runs sets it. -/
  state : (answerAll limit calls .fresh).1 = ⟨0, calls.any (Call.cuts limit)⟩
  /-- The calls together tell one cut when there is one, and none otherwise. -/
  warnings : ((answerAll limit calls .fresh).2.flatMap Report.events).countP Event.isTruncation =
    (calls.any (Call.cuts limit)).toNat

section

variable {s : Progress}

theorem answerAll_cons (call : Call) (others : List Call) (s : Progress) :
    answerAll limit (call :: others) s =
      ((answerAll limit others (call.use limit s).1).1,
        (call.use limit s).2 :: (answerAll limit others (call.use limit s).1).2) :=
  rfl

theorem answers_answerAll (calls : List Call) (hs : s.level = 0) :
    (answerAll limit calls s).2.map Report.outcome =
      calls.map fun call => (call.use limit .fresh).2.outcome := by
  induction calls generalizing s with
  | nil => rfl
  | cons call others ih =>
    have hnext : (call.use limit s).1.level = 0 := by rw [call.state_use hs]
    rw [answerAll_cons, List.map_cons, List.map_cons, call.outcome_use hs, ih hnext]

theorem state_answerAll (calls : List Call) (hs : s.level = 0) :
    (answerAll limit calls s).1 = ⟨0, s.truncated || calls.any (Call.cuts limit)⟩ := by
  induction calls generalizing s with
  | nil => rw [answerAll, List.any_nil, Bool.or_false, ← hs]
  | cons call others ih =>
    rw [answerAll_cons, call.state_use hs, ih rfl, List.any_cons, ← Bool.or_assoc]

theorem count_truncations_answerAll (calls : List Call) (hs : s.level = 0) :
    ((answerAll limit calls s).2.flatMap Report.events).countP Event.isTruncation =
      (!s.truncated && calls.any (Call.cuts limit)).toNat := by
  induction calls generalizing s with
  | nil => simp [answerAll]
  | cons call others ih =>
    rw [answerAll_cons, List.flatMap_cons, List.countP_append, call.count_truncations_use hs,
      call.state_use hs, ih rfl, List.any_cons]
    cases s.truncated <;> cases call.cuts limit <;> cases others.any (Call.cuts limit) <;> rfl

end

/-- Every sequence of calls leaves a converter that can be used again. -/
theorem reusable (limit : Int) (calls : List Call) : Reusable limit calls where
  fresh call := call.convert_eq
  answers := answers_answerAll calls rfl
  level call s := by
    rw [call.use_follows s]
    rfl
  state := state_answerAll calls rfl
  warnings := count_truncations_answerAll calls rfl

/-- A cut inside an item leaves the count at zero: the second call has all of the room again. -/
example :
    let bold (nodes : List Node) : Node := .element "b".toList [] nodes
    let x : Node := .text .plain "x".toList
    let item (nodes : List Node) : Node := .element "ul".toList [] [.element "li".toList [] nodes]
    (answerAll 2 [.node 0 (item [bold [bold [x]]]), .document [bold [bold [x]]]] .fresh).1 =
        ⟨0, true⟩ ∧
      (answerAll 2 [.node 0 (item [bold [bold [x]]]), .document [bold [bold [x]]]] .fresh).2.map
          Report.outcome = [.ok [], .ok "****x****".toList] :=
  ⟨rfl, rfl⟩

end PageMarkdown.Markdown
