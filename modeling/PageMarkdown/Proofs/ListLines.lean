import PageMarkdown.Proofs.Marks
import PageMarkdown.Proofs.OutlineEntry

/-!
# The shape of a list

Whatever the items of a list hold, one line of each stands at the indentation of
the list, behind its marker, and every other line stands deeper by two spaces at
least. A further line is set exactly that deep unless it reads as an item that is
deeper already, whether it is one or only looks like one.
-/

namespace PageMarkdown.Markdown

open Text Html

/-! ## Items -/

/-- The contents of the items among the children of a list. -/
def itemsOf : List Node → List (List Node)
  | [] => []
  | .text _ _ :: others => itemsOf others
  | .element name _ kids :: others =>
    if lower name = "li".toList then kids :: itemsOf others else itemsOf others

/-- The contents that show more than blanks. -/
def filledContents (contents : List Text) : List Text := contents.filter fun t => !isAllBlank t

/-- Trimming a filled content leaves solid ends. -/
theorem isSolid_of_mem_filledContents {contents : List Text} {content : Text}
    (h : content ∈ filledContents contents) : IsSolid (trim content) :=
  isSolid_trim (by simpa using (List.mem_filter.mp h).2)

/-- No content is filled exactly when all are blank. -/
theorem filledContents_eq_nil_iff (contents : List Text) :
    filledContents contents = [] ↔ ∀ content ∈ contents, isAllBlank content = true := by
  simp [filledContents, List.filter_eq_nil_iff]

/-- The walk over the children of a list takes the contents of its items that are not blank. -/
theorem value_walkItems (room depth : Nat) (nodes : List Node) :
    (walkItems room depth nodes).value =
      (filledContents ((itemsOf nodes).map fun item => (walkAll room (depth + 1) item).value)).map
        trim := by
  induction nodes with
  | nil => rfl
  | cons node others ih =>
    cases node with
    | text kind content => exact ih
    | element name attributes kids =>
      rw [walkItems, itemsOf]
      split
      · rw [Marked.value_append, ih, Marked.map, List.map_cons, filledContents, filledContents,
          List.filter_cons]
        cases isAllBlank (walkAll room (depth + 1) kids).value <;> rfl
      · exact ih

/-- The walk over the children of a list refuses what the first of its items does that refuses
anything. -/
theorem refused?_walkItems (room depth : Nat) (nodes : List Node) :
    (walkItems room depth nodes).marks.findSome? Mark.refused? =
      (itemsOf nodes).findSome? fun item =>
        (walkAll room (depth + 1) item).marks.findSome? Mark.refused? := by
  induction nodes with
  | nil => rfl
  | cons node others ih =>
    cases node with
    | text kind content => exact ih
    | element name attributes kids =>
      rw [walkItems, itemsOf]
      split
      · rw [Marked.marks_append, List.findSome?_append, ih, Marked.map, List.findSome?_cons]
        cases (walkAll room (depth + 1) kids).marks.findSome? Mark.refused? <;> rfl
      · exact ih

namespace Converter

/-- The converter as it works inside an element, which takes one unit of its depth. -/
def within (c : Converter) : Converter := { c with limit := c.limit - 1 }

theorem room_eq_within (c : Converter) (hlimit : 0 < c.limit) : c.room = c.within.room + 1 := by
  simp only [room, within]
  omega

/-- A list is refused when the content of an item is, as the first such content is. Otherwise it is
written from these contents. -/
theorem nodeText_list (c : Converter) (hlimit : 0 < c.limit) (depth : Nat) {name : Text}
    {ordered : Bool} (hrole : Role.ofName name = .list ordered) (attributes : Attributes)
    (kids : List Node) :
    c.nodeText depth (.element name attributes kids) =
      ((itemsOf kids).mapM fun item => c.within.contentText (depth + 1) item).map fun contents =>
        renderList ordered depth ((filledContents contents).map trim) := by
  have hwalk : walk c.room depth (.element name attributes kids) =
      (walkItems c.within.room depth kids).map (renderList ordered depth) := by
    rw [c.room_eq_within hlimit, walk, hrole]
  have hcontent : ∀ item, c.within.contentText (depth + 1) item =
      unlessRefused ((walkAll c.within.room (depth + 1) item).marks.findSome? Mark.refused?)
        (walkAll c.within.room (depth + 1) item).value :=
    fun item => c.within.outcome_finish _
  rw [nodeText, convert, outcome_finish, hwalk]
  simp only [hcontent, mapM_unlessRefused, Marked.map, value_walkItems, refused?_walkItems]
  cases (itemsOf kids).findSome? fun item =>
    (walkAll c.within.room (depth + 1) item).marks.findSome? Mark.refused? <;> rfl

end Converter

/-! ## The lines of an item -/

/-- The entry that an item makes in its list: its number and the first line of its content. -/
def itemEntry (ordered : Bool) (depth : Nat) (content : Text) (number : Nat) : OutlineEntry :=
  ⟨depth, if ordered then some number else none, trim ((filledLines (trim content)).headD [])⟩

/-- The lines of the content of an item behind the first one. -/
def furtherLines (content : Text) : List Text := (filledLines (trim content)).tail

/-- An item is written as its entry, and its further lines continue it. -/
theorem itemLines_eq_entry {content : Text} (h : IsSolid (trim content)) (ordered : Bool)
    (depth number : Nat) :
    itemLines ordered depth number (trim content) =
      (itemEntry ordered depth content number).line ::
        (furtherLines content).map (continuationLine (2 * depth + 2)) := by
  obtain ⟨first, rest, hlines, -, hwritten⟩ := itemLines_eq h.starts
  rw [hwritten, itemEntry, furtherLines, hlines, markedLine, indentation, marker,
    OutlineEntry.line, OutlineEntry.bullet, List.append_assoc]
  cases ordered <;> rfl

/-- How a further line of an item is written whose lines stand so deep at least. -/
structure Continues (least : Nat) (line written : Text) : Prop where
  /-- It is trimmed and stands behind spaces. -/
  trimmed : written = List.replicate (leadingSpaces written) ' ' ++ trim line
  /-- It stands exactly so deep unless it reads as an item that is deeper. -/
  depth : leadingSpaces written = least ↔ ¬ (ReadsAsItem line ∧ least < leadingSpaces line)
  /-- If it does not, then it stands as deep as it did. -/
  deeper : leadingSpaces written ≠ least → leadingSpaces written = leadingSpaces line

/-- A further line is no less deep than the others. -/
theorem Continues.le_leadingSpaces {least : Nat} {line written : Text}
    (h : Continues least line written) : least ≤ leadingSpaces written := by
  by_cases hexact : leadingSpaces written = least
  · exact hexact.ge
  · obtain ⟨-, hdeep⟩ := not_not.mp (mt h.depth.mpr hexact)
    exact (h.deeper hexact).symm ▸ hdeep.le

theorem continues_continuationLine (least : Nat) {line : Text} (h : isAllBlank line = false) :
    Continues least line (continuationLine least line) := by
  have hsolid := (isSolid_trim h).starts
  by_cases hitem : isItemLine line = true
  · have hwritten : continuationLine least line =
        List.replicate (max least (leadingSpaces line)) ' ' ++ trim line := by
      rw [continuationLine, if_pos hitem, leadingSpaces]
    have hdepth : leadingSpaces (continuationLine least line) = max least (leadingSpaces line) := by
      rw [hwritten, leadingSpaces_replicate_append _ hsolid]
    refine ⟨by rw [hdepth, hwritten], ?_, fun hne => ?_⟩
    · rw [hdepth, ← isItemLine_iff, hitem]
      simp only [true_and]
      omega
    · rw [hdepth] at hne ⊢
      omega
  · have hwritten : continuationLine least line = List.replicate least ' ' ++ trim line := by
      rw [continuationLine, if_neg hitem]
    have hdepth : leadingSpaces (continuationLine least line) = least := by
      rw [hwritten, leadingSpaces_replicate_append _ hsolid]
    refine ⟨by rw [hdepth, hwritten], ?_, fun hne => absurd hdepth hne⟩
    rw [hdepth, ← isItemLine_iff]
    simp [hitem]

/-- A further line that is filled and has no break in it is written as such a line. -/
theorem Continues.isLine {least : Nat} {line written : Text} (h : Continues least line written)
    (hline : isAllBlank line = false ∧ ∀ c ∈ line, isBreak c = false) :
    isAllBlank written = false ∧ ∀ c ∈ written, isBreak c = false := by
  rw [h.trimmed]
  refine ⟨(isSolid_trim hline.1).starts.isAllBlank_append _, fun c hc => ?_⟩
  rcases List.mem_append.mp hc with hc | hc
  · rw [(List.mem_replicate.mp hc).2]
    rfl
  · exact hline.2 c ((infix_trim line).subset hc)

/-- The entry of an item stands on one line, and its further lines are filled ones. -/
theorem itemLine_isBreak (content : Text) :
    (∀ c ∈ trim ((filledLines (trim content)).headD []), isBreak c = false) ∧
      ∀ line ∈ furtherLines content, isAllBlank line = false ∧ ∀ c ∈ line, isBreak c = false := by
  refine ⟨fun c hc => ?_, fun line hline => of_mem_filledLines (List.mem_of_mem_tail hline)⟩
  have hmem := (infix_trim _).subset hc
  cases hlines : filledLines (trim content) with
  | nil =>
    rw [hlines] at hmem
    cases hmem
  | cons first rest =>
    rw [hlines] at hmem
    exact (of_mem_filledLines (hlines ▸ List.mem_cons_self)).2 c hmem

/-! ## The lines of a list -/

/-- The entries that the contents of items make in their list, numbered from a number on. -/
def entriesOf (ordered : Bool) (depth number : Nat) (contents : List Text) : List OutlineEntry :=
  (contents.zipIdx number).map fun numbered => itemEntry ordered depth numbered.1 numbered.2

/-- Lines that write the items of a list with the given contents. -/
structure WritesItems (ordered : Bool) (depth number : Nat) (contents ls : List Text) : Prop where
  /-- The lines at the indentation of the list are the entries of its items. -/
  marked : (ls.filter fun line => leadingSpaces line = 2 * depth) =
    (entriesOf ordered depth number contents).map OutlineEntry.line
  /-- All others are the further lines of the items. -/
  further : List.Forall₂ (Continues (2 * depth + 2)) (contents.flatMap furtherLines)
    (ls.filter fun line => leadingSpaces line ≠ 2 * depth)
  /-- These are deeper. -/
  deeper : ∀ line ∈ ls, leadingSpaces line ≠ 2 * depth → 2 * depth + 2 ≤ leadingSpaces line
  /-- No line is blank. -/
  filled : ∀ line ∈ ls, isAllBlank line = false
  /-- No line has a break in it. -/
  unbroken : ∀ line ∈ ls, ∀ c ∈ line, isBreak c = false

namespace WritesItems

variable {ordered : Bool} {depth number : Nat} {content : Text} {contents ls : List Text}

theorem nil : WritesItems ordered depth number [] [] := ⟨rfl, .nil, by simp, by simp, by simp⟩

/-- The lines of one more item come first. -/
theorem cons (h : IsSolid (trim content))
    (hls : WritesItems ordered depth (number + 1) contents ls) :
    WritesItems ordered depth number (content :: contents)
      (itemLines ordered depth number (trim content) ++ ls) := by
  obtain ⟨hlabel, hfurther⟩ := itemLine_isBreak content
  have hcontinues : ∀ line ∈ furtherLines content,
      Continues (2 * depth + 2) line (continuationLine (2 * depth + 2) line) :=
    fun line hline => continues_continuationLine _ (hfurther line hline).1
  have hle : ∀ written ∈ (furtherLines content).map (continuationLine (2 * depth + 2)),
      2 * depth + 2 ≤ leadingSpaces written :=
    List.forall_mem_map.mpr fun line hline => (hcontinues line hline).le_leadingSpaces
  have hdeep : ∀ written ∈ (furtherLines content).map (continuationLine (2 * depth + 2)),
      leadingSpaces written ≠ 2 * depth := by
    intro written hwritten
    have hwritten := hle written hwritten
    omega
  have hentry : leadingSpaces (itemEntry ordered depth content number).line = 2 * depth :=
    OutlineEntry.leadingSpaces_line _
  rw [itemLines_eq_entry h, List.cons_append]
  refine ⟨?_, ?_, ?_, ?_, ?_⟩
  · rw [List.filter_cons_of_pos (by simpa using hentry), List.filter_append,
      List.filter_eq_nil_iff.mpr (by simpa using hdeep), List.nil_append, hls.marked]
    simp [entriesOf]
  · rw [List.filter_cons_of_neg (by simpa using hentry), List.filter_append,
      List.filter_eq_self.mpr (by simpa using hdeep), List.flatMap_cons]
    refine List.rel_append ?_ hls.further
    exact List.forall₂_map_right_iff.mpr (List.forall₂_same.mpr hcontinues)
  · refine List.forall_mem_cons.mpr ⟨fun hne => absurd hentry hne, ?_⟩
    exact List.forall_mem_append.mpr ⟨fun written hwritten _ => hle written hwritten, hls.deeper⟩
  · refine List.forall_mem_cons.mpr ⟨?_, List.forall_mem_append.mpr ⟨?_, hls.filled⟩⟩
    · exact (OutlineEntry.startsSolid_bullet _).append _ |>.isAllBlank_append _
    · exact List.forall_mem_map.mpr fun line hline =>
        ((hcontinues line hline).isLine (hfurther line hline)).1
  · refine List.forall_mem_cons.mpr ⟨?_, List.forall_mem_append.mpr ⟨?_, hls.unbroken⟩⟩
    · exact OutlineEntry.isBreak_line _ hlabel
    · exact List.forall_mem_map.mpr fun line hline =>
        ((hcontinues line hline).isLine (hfurther line hline)).2

end WritesItems

/-- The lines of a list write its items. -/
theorem writesItems_listLines {contents : List Text}
    (h : ∀ content ∈ contents, IsSolid (trim content)) (ordered : Bool) (depth number : Nat) :
    WritesItems ordered depth number contents
      (listLines ordered depth number (contents.map trim)) := by
  induction contents generalizing number with
  | nil => exact .nil
  | cons content contents ih =>
    obtain ⟨hcontent, hcontents⟩ := List.forall_mem_cons.mp h
    exact .cons hcontent (ih hcontents (number + 1))

/-! ## Lists -/

/-- The text of a list at a depth whose items have the given contents. -/
structure IsListText (ordered : Bool) (depth : Nat) (contents : List Text) (t : Text) : Prop where
  /-- There is nothing exactly when no item shows more than blanks. -/
  nothing : t = [] ↔ ∀ content ∈ contents, isAllBlank content = true
  /-- An item that does has a first line that is not blank. -/
  first : ∀ content ∈ filledContents contents, ∃ first rest,
    lines (dropEmptyLines (trim content)) = first :: rest ∧ isAllBlank first = false
  /-- The lines stand between empty ones. No line is blank or has a break in it; those at the
  indentation of the list are the numbered entries of the items, and all others are deeper. -/
  written : t ≠ [] → ∃ ls, ls ≠ [] ∧ t = ['\n', '\n'] ++ unlines ls ++ ['\n', '\n'] ∧
    (∀ line ∈ ls, isAllBlank line = false ∧ ∀ c ∈ line, isBreak c = false) ∧
    (ls.filter fun line => leadingSpaces line = 2 * depth) =
      (entriesOf ordered depth 1 (filledContents contents)).map OutlineEntry.line ∧
    ∀ line ∈ ls, leadingSpaces line ≠ 2 * depth → 2 * depth + 2 ≤ leadingSpaces line

/-- A list stands between empty lines, and without lines there is nothing. -/
theorem renderList_eq (ordered : Bool) (depth : Nat) (items : List Text) :
    renderList ordered depth items = [] ∧ listLines ordered depth 1 items = [] ∨
      renderList ordered depth items =
          ['\n', '\n'] ++ unlines (listLines ordered depth 1 items) ++ ['\n', '\n'] ∧
        listLines ordered depth 1 items ≠ [] := by
  rw [renderList]
  cases listLines ordered depth 1 items with
  | nil => exact .inl ⟨rfl, rfl⟩
  | cons line ls => exact .inr ⟨rfl, List.cons_ne_nil line ls⟩

/-- There are lines as soon as there is an item. -/
theorem WritesItems.eq_nil_iff {ordered : Bool} {depth number : Nat} {contents ls : List Text}
    (h : WritesItems ordered depth number contents ls) : ls = [] ↔ contents = [] := by
  constructor
  · rintro rfl
    have hmarked := h.marked
    rw [List.filter_nil, eq_comm, List.map_eq_nil_iff, entriesOf, List.map_eq_nil_iff] at hmarked
    exact List.zipIdx_eq_nil_iff.mp hmarked
  · rintro rfl
    have hfurther := List.forall₂_nil_left_iff.mp h.further
    have hmarked := h.marked
    rw [entriesOf, List.zipIdx_nil, List.map_nil, List.map_nil] at hmarked
    rw [List.filter_eq_nil_iff] at hmarked hfurther
    refine List.eq_nil_iff_forall_not_mem.mpr fun line hline => ?_
    have hne := hmarked line hline
    have heq := hfurther line hline
    simp only [decide_eq_true_eq, not_not] at hne heq
    exact hne heq

theorem isListText_renderList (ordered : Bool) (depth : Nat) (contents : List Text) :
    IsListText ordered depth contents
      (renderList ordered depth ((filledContents contents).map trim)) := by
  have hsolid : ∀ content ∈ filledContents contents, IsSolid (trim content) :=
    fun content => isSolid_of_mem_filledContents
  have hwrites := writesItems_listLines hsolid ordered depth 1
  have hrender := renderList_eq ordered depth ((filledContents contents).map trim)
  refine ⟨?_, fun content hcontent => ?_, fun hne => ?_⟩
  · rw [← filledContents_eq_nil_iff, ← hwrites.eq_nil_iff]
    rcases hrender with ⟨hnil, hlines⟩ | ⟨hblock, hlines⟩
    · exact iff_of_true hnil hlines
    · exact iff_of_false (by simp [hblock]) hlines
  · obtain ⟨first, rest, hlines, hfirst⟩ :=
      (startsSolid_dropEmptyLines (hsolid content hcontent).starts).lines_eq
    exact ⟨first, rest, hlines, hfirst.isAllBlank_eq_false⟩
  · obtain ⟨hblock, hlines⟩ := hrender.resolve_left fun h => hne h.1
    refine ⟨_, hlines, hblock, fun line hline => ?_, hwrites.marked, hwrites.deeper⟩
    exact ⟨hwrites.filled line hline, hwrites.unbroken line hline⟩

/-- A list is refused as the first of its items is whose content is refused. Otherwise it is
converted to its text: nothing when no item shows more than blanks, and else one line at the
indentation of the list for each item that does, with its marker, and deeper lines. -/
theorem Converter.nodeText_isListText (c : Converter) (hlimit : 0 < c.limit) (depth : Nat)
    {name : Text} {ordered : Bool} (hrole : Role.ofName name = .list ordered)
    (attributes : Attributes) (kids : List Node) :
    (∀ fault, ((itemsOf kids).mapM fun item => c.within.contentText (depth + 1) item) =
        .error fault → c.nodeText depth (.element name attributes kids) = .error fault) ∧
      ∀ contents, ((itemsOf kids).mapM fun item => c.within.contentText (depth + 1) item) =
        .ok contents → ∃ t, c.nodeText depth (.element name attributes kids) = .ok t ∧
          IsListText ordered depth contents t := by
  rw [c.nodeText_list hlimit depth hrole attributes kids]
  constructor
  · intro fault hfault
    rw [hfault]
    rfl
  · intro contents hcontents
    rw [hcontents]
    exact ⟨_, rfl, isListText_renderList ordered depth contents⟩

/-- A numbered list inside another one: a text whose second line looks like an item, a blank item,
and an item with a list of its own behind a line separator. -/
def layeredList : Node :=
  .element "ol".toList [] [
    .element "li".toList [] [.text .plain " a".toList,
      .element "pre".toList [] [.text .plain "b\n1. c".toList]],
    .element "li".toList [] [.element "br".toList [] []],
    .text .plain "no item".toList,
    .element "li".toList [] [.element "code".toList [] [.text .plain "d\u2028 e".toList],
      .element "ul".toList [] [.element "li".toList [] [.text .plain "f".toList]]]]

theorem Converter.nodeText_isListText_layered :
    (0 : Int) < 9 ∧ Role.ofName "ol".toList = .list true ∧
      ∃ t, nodeText ⟨9, false⟩ 1 layeredList = .ok t ∧
        t = ("\n\n  1. a\n    \x60\x60\x60\n    b\n    1. c\n    \x60\x60\x60\n".toList ++
          "  2. \x60d\n    e\x60\n    - f\n\n".toList) ∧
        IsListText true 1 [" a\n\n\x60\x60\x60\nb\n1. c\n\x60\x60\x60\n\n".toList,
          "  \n".toList, "\x60d\u2028 e\x60\n\n    - f\n\n".toList] t := by
  have hrole : Role.ofName "ol".toList = .list true := by decide
  obtain ⟨t, ht, htext⟩ :=
    (nodeText_isListText ⟨9, false⟩ (by decide) 1 hrole [] layeredList.children).2 _ rfl
  exact ⟨by decide, hrole, t, ht, (Except.ok.inj ht).symm.trans rfl, htext⟩

/-- The lines of a converted list that do not stand at its own indentation are the further lines of
its items, one by one and trimmed. Each stands two spaces deeper than the list, unless it reads as
an item that is deeper already: then it stays as deep as it is, wherever it comes from. -/
theorem Converter.nodeText_continues (c : Converter) (hlimit : 0 < c.limit) (depth : Nat)
    {name : Text} {ordered : Bool} (hrole : Role.ofName name = .list ordered)
    (attributes : Attributes) (kids : List Node) {contents : List Text}
    (hcontents : ((itemsOf kids).mapM fun item => c.within.contentText (depth + 1) item) =
      .ok contents) :
    ∃ ls, c.nodeText depth (.element name attributes kids) = .ok (block (unlines ls)) ∧
      List.Forall₂ (Continues (2 * depth + 2)) ((filledContents contents).flatMap furtherLines)
        (ls.filter fun line => leadingSpaces line ≠ 2 * depth) := by
  have hsolid : ∀ content ∈ filledContents contents, IsSolid (trim content) :=
    fun content => isSolid_of_mem_filledContents
  have hstarts : ∀ item ∈ (filledContents contents).map trim, StartsSolid item :=
    List.forall_mem_map.mpr fun content hcontent => (hsolid content hcontent).starts
  refine ⟨_, ?_, (writesItems_listLines hsolid ordered depth 1).further⟩
  rw [c.nodeText_list hlimit depth hrole attributes kids, hcontents,
    ← renderList_eq_block hstarts]
  rfl

/-- A text that looks like an item stands as deep as the others here, because it is no deeper. -/
theorem Converter.nodeText_continues_layered :
    (0 : Int) < 9 ∧ Role.ofName "ol".toList = .list true ∧
      ∃ ls, nodeText ⟨9, false⟩ 1 layeredList = .ok (block (unlines ls)) ∧
        List.Forall₂ (Continues 4)
          (["\x60\x60\x60", "b", "1. c", "\x60\x60\x60", " e\x60", "    - f"].map String.toList)
          (ls.filter fun line => leadingSpaces line ≠ 2) := by
  have hrole : Role.ofName "ol".toList = .list true := by decide
  obtain ⟨ls, ht, hlines⟩ :=
    nodeText_continues ⟨9, false⟩ (by decide) 1 hrole [] layeredList.children rfl
  exact ⟨by decide, hrole, ls, ht, hlines⟩

/-- The content of an item: a label, and a preformatted text with a line that looks like an item. -/
def dashedText : List Node :=
  [.text .plain "A".toList, .element "pre".toList [] [.text .plain "x\n    - y".toList]]

/-- A line of the preformatted text stands deeper than two spaces behind its list, although there is
no list inside the item. -/
theorem Converter.nodeText_deeper_dashedText :
    Node.named "ul".toList dashedText = [] ∧ Node.named "ol".toList dashedText = [] ∧
      ∃ ls, nodeText ⟨9, false⟩ 0 (.element "ul".toList [] [.element "li".toList [] dashedText]) =
          .ok (block (unlines ls)) ∧
        ls = ["- A", "  \x60\x60\x60", "  x", "    - y", "  \x60\x60\x60"].map String.toList ∧
        ∃ line ∈ ls, leadingSpaces line ≠ 2 * 0 ∧ leadingSpaces line ≠ 2 * 0 + 2 :=
  ⟨rfl, rfl, _, rfl, rfl, "    - y".toList, by decide, by decide, by decide⟩

end PageMarkdown.Markdown
