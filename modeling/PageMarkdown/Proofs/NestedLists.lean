import PageMarkdown.Proofs.Html.Node
import PageMarkdown.Proofs.Marks
import PageMarkdown.Proofs.OutlineEntry

/-!
# Nested lists

A list whose items have a label and further lists below it is the outline of a
tree. Every enclosing list splits the lines of the lists inside it and indents
them again. The lines of an outline come through that unchanged, however many
lists are around them, so the outermost list is written as the whole outline.
-/

namespace PageMarkdown.Markdown

open Text Html

/-! ## Outlines -/

/-- An element that is a list. -/
def isList (name : Text) : Bool :=
  match Role.ofName name with
  | .list _ => true
  | _ => false

/-- An element that is a numbered list. -/
def isNumbered (name : Text) : Bool := Role.ofName name = .list true

/-- The string that labels an item: the first of its children that shows more than blanks. -/
def rawLabel? (kids : List Node) : Option Text :=
  kids.findSome? fun
    | .text kind content => if isSpace (.text kind content) then none else some content
    | .element _ _ _ => none

/-- A label as it is shown: its references are resolved, its blanks are single spaces, and it has
none at its ends. -/
def labelText (raw : Text) : Text := trim (stringMarkdown raw).value

mutual

/-- The outline of a list at a depth. -/
def outline (depth : Nat) : Node → List OutlineEntry
  | .text _ _ => []
  | .element name _ kids => itemEntries depth (isNumbered name) 1 kids

/-- The outlines of lists, one after another. -/
def listEntries (depth : Nat) : List Node → List OutlineEntry
  | [] => []
  | node :: others => outline depth node ++ listEntries depth others

/-- The outline of the items among nodes, numbered from a number on. An item without a label is
skipped and takes no number. -/
def itemEntries (depth : Nat) (ordered : Bool) : Nat → List Node → List OutlineEntry
  | _, [] => []
  | number, .text _ _ :: others => itemEntries depth ordered number others
  | number, .element _ _ kids :: others =>
    match rawLabel? kids with
    | none => itemEntries depth ordered number others
    | some raw =>
      ⟨depth, if ordered then some number else none, labelText raw⟩ ::
        (listEntries (depth + 1) kids ++ itemEntries depth ordered (number + 1) others)

end

section

variable (isLabel : Text → Bool)

mutual

/-- The node is a list, its children are items and blanks. -/
def isOutline : Node → Bool
  | .text _ _ => false
  | .element name _ kids => isList name && areItems kids

/-- The nodes are items and blanks. -/
def areItems : List Node → Bool
  | [] => true
  | .text kind content :: others => isSpace (.text kind content) && areItems others
  | .element name _ kids :: others =>
    lower name = "li".toList && isItemContent kids && areItems others

/-- The nodes are blanks, or a label among blanks and then lists and blanks. -/
def isItemContent : List Node → Bool
  | [] => true
  | .text kind content :: others =>
    if isSpace (.text kind content) then isItemContent others
    else isLabel content && areLists others
  | .element _ _ _ :: _ => false

/-- The nodes are lists and blanks. -/
def areLists : List Node → Bool
  | [] => true
  | node :: others => (isSpace node || isOutline node) && areLists others

end

end

mutual

/-- How deep lists are nested in a node, which counts when it is a list itself. -/
def listNesting : Node → Nat
  | .text _ _ => 0
  | .element name _ kids => listNestingAll kids + if isList name then 1 else 0

/-- How deep lists are nested in nodes. -/
def listNestingAll : List Node → Nat
  | [] => 0
  | node :: others => max (listNesting node) (listNestingAll others)

end

/-! ## Labels -/

/-- The string can be shown, and then it is not blank. -/
def isShownLabel (raw : Text) : Bool :=
  match shownText raw with
  | .ok shown => !isAllBlank shown
  | .error _ => false

/-- What a label comes to: one filled line among blanks. -/
structure LabelShown (raw : Text) : Prop where
  /-- Nothing is refused. -/
  marks : (stringMarkdown raw).marks = []
  /-- The label stands on one line. -/
  flat : IsFlat (labelText raw)
  /-- There is a label. -/
  filled : labelText raw ≠ []
  /-- Around it there are blanks, and those behind it are gaps. -/
  around : ∃ before after, (stringMarkdown raw).value = before ++ labelText raw ++ after ∧
    (∀ c ∈ before, isBlank c = true) ∧ ∀ c ∈ after, isGap c = true

theorem labelShown {raw : Text} (h : isShownLabel raw) : LabelShown raw := by
  rw [isShownLabel] at h
  split at h
  · rename_i shown hshown
    obtain ⟨resolved, hresolved⟩ : ∃ resolved, shown = squeeze resolved := by
      rw [shownText] at hshown
      cases hr : Reference.resolveAll raw with
      | error e =>
        rw [hr] at hshown
        cases hshown
      | ok resolved =>
        rw [hr] at hshown
        exact ⟨resolved, (Except.ok.inj hshown).symm⟩
    have hstring : stringMarkdown raw = .clear shown := by rw [stringMarkdown, hshown]
    have hlabel : labelText raw = trim shown := by rw [labelText, hstring, Marked.clear]
    obtain ⟨before, after, hparts, hbefore, hafter⟩ := exists_append_trim shown
    have hsqueezed : IsSqueezed shown := hresolved ▸ isSqueezed_squeezeFrom false resolved
    refine ⟨by rw [hstring, Marked.clear], ?_, ?_, before, after, ?_, hbefore, ?_⟩
    · rw [hlabel, hresolved]
      exact isFlat_trim_squeeze resolved
    · rw [hlabel, Ne, trim_eq_nil_iff]
      simpa using h
    · rw [hlabel, hstring]
      exact hparts
    · intro c hc
      have hmem : c ∈ shown := by
        rw [hparts]
        exact List.mem_append_right _ hc
      rw [hsqueezed.spaces c hmem (hafter c hc)]
      rfl
  · cases h

/-! ## Walking an outline -/

/-- The filled lines of the text are the lines of the outline, and they stand in blocks. -/
def Outlines (entries : List OutlineEntry) (t : Text) : Prop :=
  ∃ contents, Spaced contents t ∧ (∀ content ∈ contents, EndsSolid content) ∧
    contents.flatMap filledLines = entries.map OutlineEntry.line

namespace Outlines

theorem gap {t : Text} (h : ∀ c ∈ t, isGap c = true) : Outlines [] t := ⟨[], .gap h, by simp, rfl⟩

theorem append {entries entries' : List OutlineEntry} {t t' : Text} (h : Outlines entries t)
    (h' : Outlines entries' t') : Outlines (entries ++ entries') (t ++ t') := by
  obtain ⟨contents, hspaced, hends, hlines⟩ := h
  obtain ⟨contents', hspaced', hends', hlines'⟩ := h'
  refine ⟨contents ++ contents', hspaced.append hspaced', ?_, ?_⟩
  · exact List.forall_mem_append.mpr ⟨hends, hends'⟩
  · rw [List.flatMap_append, hlines, hlines', List.map_append]

theorem block {least : Nat} {entries : List OutlineEntry} (h : ∀ e ∈ entries, e.IsProper least) :
    Outlines entries (Markdown.block (unlines (entries.map OutlineEntry.line))) := by
  cases entries with
  | nil => exact gap (by simp [Markdown.block, unlines])
  | cons e entries =>
    have hlines := forall_mem_lines h
    have hcontent := endsSolid_unlines (List.cons_ne_nil _ _) fun l hl => (hlines l hl).1
    refine ⟨_, Spaced.single _, ?_, ?_⟩
    · rw [if_neg (by simpa using hcontent.ne_nil)]
      exact List.forall_mem_singleton.mpr hcontent
    · rw [if_neg (by simpa using hcontent.ne_nil), List.flatMap_singleton]
      exact filledLines_unlines (fun l hl => (hlines l hl).1.isAllBlank_eq_false)
        fun l hl => (hlines l hl).2

end Outlines

/-- What the items among nodes come to. -/
structure ItemsWalked (room depth : Nat) (nodes : List Node) : Prop where
  /-- Nothing is cut or refused. -/
  marks : (walkItems room depth nodes).marks = []
  /-- The lines are those of the outline. -/
  lines : ∀ ordered number, listLines ordered depth number (walkItems room depth nodes).value =
    (itemEntries depth ordered number nodes).map OutlineEntry.line

/-- What lists among nodes come to. -/
structure ListsWalked (room depth : Nat) (nodes : List Node) : Prop where
  /-- Nothing is cut or refused. -/
  marks : (walkAll room depth nodes).marks = []
  /-- The lines are those of the outline. -/
  outlines : Outlines (listEntries depth nodes) (walkAll room depth nodes).value

/-- What the content of an item comes to. -/
structure ContentWalked (room depth : Nat) (nodes : List Node) : Prop where
  /-- Nothing is cut or refused. -/
  marks : (walkAll room depth nodes).marks = []
  /-- Without a label there are only blanks. -/
  unlabelled : rawLabel? nodes = none → isAllBlank (walkAll room depth nodes).value = true
  /-- With a label the lists come behind it. -/
  labelled : ∀ raw, rawLabel? nodes = some raw → LabelShown raw ∧
    ∃ before rest, (walkAll room depth nodes).value = before ++ labelText raw ++ rest ∧
      (∀ c ∈ before, isBlank c = true) ∧ Outlines (listEntries depth nodes) rest

/-! The lists and labels, one node after another. -/

section

variable {room depth : Nat} {kind : StringKind} {content : Text} {others : List Node}

theorem ListsWalked.space (hspace : isSpace (.text kind content))
    (h : ListsWalked room depth others) :
    ListsWalked room depth (.text kind content :: others) := by
  obtain ⟨hmarks, hgap⟩ := walk_space hspace room depth
  constructor
  · rw [walkAll, Marked.marks_append, hmarks, h.marks]
    rfl
  · rw [walkAll, listEntries, outline]
    exact (Outlines.gap hgap).append h.outlines

theorem ContentWalked.space (hspace : isSpace (.text kind content))
    (h : ContentWalked room depth others) :
    ContentWalked room depth (.text kind content :: others) := by
  obtain ⟨hmarks, hgap⟩ := walk_space hspace room depth
  have hblank : ∀ c ∈ (walk room depth (.text kind content)).value, isBlank c = true :=
    fun c hc => isBlank_of_isGap (hgap c hc)
  have hlabel : rawLabel? (.text kind content :: others) = rawLabel? others := by
    simp [rawLabel?, hspace]
  refine ⟨?_, ?_, ?_⟩
  · rw [walkAll, Marked.marks_append, hmarks, h.marks]
    rfl
  · intro hnone
    have hothers := h.unlabelled (hlabel ▸ hnone)
    rw [isAllBlank, List.all_eq_true] at hothers ⊢
    rw [walkAll]
    exact List.forall_mem_append.mpr ⟨hblank, hothers⟩
  · intro raw hraw
    obtain ⟨hshown, before, rest, hvalue, hbefore, hrest⟩ := h.labelled raw (hlabel ▸ hraw)
    refine ⟨hshown, (walk room depth (.text kind content)).value ++ before, rest, ?_,
      List.forall_mem_append.mpr ⟨hblank, hbefore⟩, ?_⟩
    · rw [walkAll, Marked.value_append, hvalue]
      simp
    · rw [listEntries, outline]
      exact hrest

theorem ListsWalked.label (hspace : ¬ isSpace (.text kind content)) (hlabel : isShownLabel content)
    (h : ListsWalked room depth others) :
    ContentWalked room depth (.text kind content :: others) := by
  have hshown := labelShown hlabel
  have hread : kind.isRead = true := by
    by_contra hread
    exact hspace (by simp [isSpace, hread])
  have hwalk : walk room depth (.text kind content) = stringMarkdown content := by
    rw [walk, if_pos hread]
  have hraw : rawLabel? (.text kind content :: others) = some content := by
    simp [rawLabel?, hspace]
  refine ⟨?_, ?_, ?_⟩
  · rw [walkAll, Marked.marks_append, hwalk, hshown.marks, h.marks]
    rfl
  · intro hnone
    rw [hraw] at hnone
    cases hnone
  · rintro raw hsame
    obtain rfl := Option.some.inj (hraw.symm.trans hsame)
    obtain ⟨before, after, hvalue, hbefore, hafter⟩ := hshown.around
    refine ⟨hshown, before, after ++ (walkAll room depth others).value, ?_, hbefore, ?_⟩
    · rw [walkAll, Marked.value_append, hwalk, hvalue]
      simp
    · rw [listEntries, outline]
      exact (Outlines.gap hafter).append h.outlines

theorem ItemsWalked.space (h : ItemsWalked room depth others) :
    ItemsWalked room depth (.text kind content :: others) :=
  ⟨by rw [walkItems, h.marks], fun ordered number => by rw [walkItems, itemEntries, h.lines]⟩

end

/-- An item is written as its line of the outline and those of the lists below it. -/
theorem itemLines_outline {raw before rest : Text} (hlabel : LabelShown raw)
    (hbefore : ∀ c ∈ before, isBlank c = true) {depth : Nat} {entries : List OutlineEntry}
    (hrest : Outlines entries rest) (hproper : ∀ e ∈ entries, e.IsProper (depth + 1))
    (ordered : Bool) (number : Nat) :
    itemLines ordered depth number (trim (before ++ labelText raw ++ rest)) =
      OutlineEntry.line ⟨depth, if ordered then some number else none, labelText raw⟩ ::
        entries.map OutlineEntry.line := by
  obtain ⟨contents, hspaced, hends, hlines⟩ := hrest
  have hsolid := hlabel.flat.trimmed.isSolid hlabel.filled
  have hstarts := hsolid.starts.append rest
  obtain ⟨pad, hpad, hfilled⟩ :=
    hspaced.filledLines_behind_line hends hsolid.ends hlabel.flat.isBreak_eq_false
  have htrim : trim (before ++ labelText raw ++ rest) = trimRight (labelText raw ++ rest) := by
    rw [List.append_assoc, hstarts.trim_append hbefore]
  have hitem : StartsSolid (trim (before ++ labelText raw ++ rest)) := by
    refine (isSolid_trim ?_).starts
    rw [List.append_assoc]
    exact hstarts.isAllBlank_append before
  -- The first filled line is the label, padded at most, and the marker trims it.
  obtain ⟨first, others, hparts, -, hwritten⟩ := itemLines_eq hitem
  rw [htrim, hfilled] at hparts
  obtain ⟨rfl, rfl⟩ := List.cons.inj hparts
  have hmarked : trim (labelText raw ++ pad) = labelText raw :=
    hlabel.flat.trimmed.trim_append (by simp : ∀ c ∈ ([] : Text), isBlank c = true) hpad
  rw [hwritten, hlines, List.map_map]
  congr 1
  · rw [markedLine, hmarked, OutlineEntry.line, OutlineEntry.bullet, marker, indentation,
      List.append_assoc]
    cases ordered <;> rfl
  · exact List.map_congr_left fun e he => (hproper e he).continuationLine_eq

section

variable {room depth : Nat} {name : Text} {attributes : Attributes} {kids others : List Node}

theorem ContentWalked.item (hname : lower name = "li".toList)
    (h : ContentWalked room (depth + 1) kids)
    (hproper : ∀ e ∈ listEntries (depth + 1) kids, e.IsProper (depth + 1))
    (hothers : ItemsWalked room depth others) :
    ItemsWalked room depth (.element name attributes kids :: others) := by
  constructor
  · rw [walkItems, if_pos hname, Marked.marks_append, hothers.marks, Marked.map, h.marks]
    rfl
  · intro ordered number
    rw [walkItems, if_pos hname, itemEntries, Marked.value_append, Marked.map]
    cases hraw : rawLabel? kids with
    | none =>
      rw [if_pos (h.unlabelled hraw)]
      exact hothers.lines ordered number
    | some raw =>
      obtain ⟨hlabel, before, rest, hvalue, hbefore, hrest⟩ := h.labelled raw hraw
      have hsolid := hlabel.flat.trimmed.isSolid hlabel.filled
      have hfilled : isAllBlank (before ++ labelText raw ++ rest) = false := by
        rw [List.append_assoc]
        exact (hsolid.starts.append rest).isAllBlank_append before
      rw [hvalue, hfilled, if_neg Bool.false_ne_true, List.singleton_append, listLines,
        itemLines_outline hlabel hbefore hrest hproper, hothers.lines]
      simp

/-- A list comes to the block of its outline. -/
theorem ItemsWalked.walk_list (hname : isList name) (h : ItemsWalked room depth kids) :
    walk (room + 1) depth (.element name attributes kids) =
      .clear (block (unlines
        ((itemEntries depth (isNumbered name) 1 kids).map OutlineEntry.line))) := by
  have hrole : Role.ofName name = .list (isNumbered name) := by
    rw [isList] at hname
    rw [isNumbered]
    cases hrole : Role.ofName name with
    | list ordered => cases ordered <;> rfl
    | _ => simp [hrole] at hname
  have hstarts : ∀ item ∈ (walkItems room depth kids).value, StartsSolid item :=
    fun item hitem => (isSolid_of_mem_walkItems hitem).starts
  rw [walk, hrole]
  simp only [Marked.map, renderList_eq_block hstarts, h.lines, h.marks]
  rfl

theorem ItemsWalked.list (hname : isList name) (h : ItemsWalked room depth kids)
    (hproper : ∀ e ∈ itemEntries depth (isNumbered name) 1 kids, e.IsProper depth)
    (hothers : ListsWalked (room + 1) depth others) :
    ListsWalked (room + 1) depth (.element name attributes kids :: others) := by
  constructor
  · rw [walkAll, Marked.marks_append, h.walk_list hname, hothers.marks]
    rfl
  · rw [walkAll, listEntries, outline, Marked.value_append, h.walk_list hname]
    exact (Outlines.block hproper).append hothers.outlines

end

/-- The entries of an outline whose labels are shown are proper. -/
theorem isProper_entries (nodes : List Node) (depth : Nat) :
    (areItems isShownLabel nodes → ∀ ordered number,
      ∀ e ∈ itemEntries depth ordered number nodes, e.IsProper depth) ∧
    (areLists isShownLabel nodes → ∀ e ∈ listEntries depth nodes, e.IsProper depth) ∧
    (isItemContent isShownLabel nodes →
      (∀ e ∈ listEntries depth nodes, e.IsProper depth) ∧
        ∀ raw, rawLabel? nodes = some raw → LabelShown raw) := by
  induction nodes using Node.forest_induction generalizing depth with
  | nil => simp [itemEntries, listEntries, rawLabel?]
  | text kind content others ih =>
    obtain ⟨hitems, hlists, hcontent⟩ := ih depth
    refine ⟨?_, ?_, ?_⟩
    · intro h ordered number
      rw [areItems, Bool.and_eq_true] at h
      rw [itemEntries]
      exact hitems h.2 ordered number
    · intro h
      rw [areLists, Bool.and_eq_true] at h
      rw [listEntries, outline]
      exact hlists h.2
    · intro h
      rw [isItemContent] at h
      rw [listEntries, outline]
      split at h
      · rename_i hspace
        refine ⟨(hcontent h).1, fun raw hraw => (hcontent h).2 raw ?_⟩
        simpa [rawLabel?, hspace] using hraw
      · rename_i hspace
        rw [Bool.and_eq_true] at h
        refine ⟨hlists h.2, fun raw hraw => ?_⟩
        obtain rfl : content = raw := by simpa [rawLabel?, hspace] using hraw
        exact labelShown h.1
  | element name attributes kids others hkids hothers =>
    obtain ⟨hitems, hlists, -⟩ := hothers depth
    refine ⟨?_, ?_, ?_⟩
    · intro h ordered number
      simp only [areItems, Bool.and_eq_true] at h
      obtain ⟨hbelow, hlabel⟩ := (hkids (depth + 1)).2.2 h.1.2
      rw [itemEntries]
      cases hraw : rawLabel? kids with
      | none => exact hitems h.2 ordered number
      | some raw =>
        have hshown := hlabel raw hraw
        refine List.forall_mem_cons.mpr ⟨⟨Nat.le_refl _, hshown.flat, hshown.filled⟩, ?_⟩
        refine List.forall_mem_append.mpr ⟨fun e he => ?_, hitems h.2 ordered _⟩
        exact ⟨Nat.le_of_succ_le (hbelow e he).deep, (hbelow e he).flat, (hbelow e he).filled⟩
    · intro h
      simp only [areLists, isSpace, Bool.false_or, isOutline, Bool.and_eq_true] at h
      rw [listEntries, outline]
      exact List.forall_mem_append.mpr ⟨(hkids depth).1 h.1.2 _ _, hlists h.2⟩
    · intro h
      simp [isItemContent] at h

/-- Lists with shown labels are walked to their outline, where there is room for their nesting. -/
theorem outlineWalked (nodes : List Node) (room depth : Nat) (hroom : listNestingAll nodes ≤ room) :
    (areItems isShownLabel nodes → ItemsWalked room depth nodes) ∧
      (areLists isShownLabel nodes → ListsWalked room depth nodes) ∧
      (isItemContent isShownLabel nodes → ContentWalked room depth nodes) := by
  -- The three go together: what follows the label of an item is lists, and what is in a list is
  -- items again.
  induction nodes using Node.forest_induction generalizing room depth with
  | nil =>
    refine ⟨fun _ => ⟨rfl, fun _ _ => rfl⟩, fun _ => ⟨rfl, ?_⟩, fun _ => ?_⟩
    · exact Outlines.gap (by simp [walkAll, Marked.clear])
    · exact ⟨rfl, fun _ => rfl, by simp [rawLabel?]⟩
  | text kind content others ih =>
    rw [listNestingAll, listNesting, Nat.zero_max] at hroom
    obtain ⟨hitems, hlists, hcontent⟩ := ih room depth hroom
    refine ⟨?_, ?_, ?_⟩
    · intro h
      rw [areItems, Bool.and_eq_true] at h
      exact (hitems h.2).space
    · intro h
      rw [areLists, isOutline, Bool.or_false, Bool.and_eq_true] at h
      exact (hlists h.2).space h.1
    · intro h
      rw [isItemContent] at h
      split at h
      · rename_i hspace
        exact (hcontent h).space hspace
      · rename_i hspace
        rw [Bool.and_eq_true] at h
        exact (hlists h.2).label hspace h.1
  | element name attributes kids others hkids hothers =>
    rw [listNestingAll, listNesting] at hroom
    obtain ⟨hitems, hlists, -⟩ := hothers room depth (by omega)
    refine ⟨?_, ?_, ?_⟩
    · intro h
      simp only [areItems, Bool.and_eq_true, decide_eq_true_eq] at h
      have hcontent := (hkids room (depth + 1) (by omega)).2.2 h.1.2
      have hproper := ((isProper_entries kids (depth + 1)).2.2 h.1.2).1
      exact hcontent.item h.1.1 hproper (hitems h.2)
    · intro h
      simp only [areLists, isSpace, Bool.false_or, isOutline, Bool.and_eq_true] at h
      rw [h.1.1, if_pos rfl] at hroom
      cases room with
      | zero => omega
      | succ room =>
        have hbelow := (hkids room depth (by omega)).1 h.1.2
        exact hbelow.list h.1.1 ((isProper_entries kids depth).1 h.1.2 _ _) (hlists h.2)
    · intro h
      simp [isItemContent] at h

/-! ## Documents -/

/-- An outermost list comes to the block of its outline. -/
theorem walk_outline {list : Node} (hlist : isOutline isShownLabel list) {room : Nat}
    (hroom : listNesting list ≤ room) :
    ∃ t, t = unlines ((outline 0 list).map OutlineEntry.line) ∧
      walk room 0 list = .clear (block t) ∧ (t = [] ∨ IsSolid t) ∧ ¬ HasBlankRun t := by
  cases list with
  | text kind content => simp [isOutline] at hlist
  | element name attributes kids =>
    obtain ⟨hname, hkids⟩ : isList name = true ∧ areItems isShownLabel kids = true := by
      simpa [isOutline] using hlist
    obtain ⟨room, rfl, hnesting⟩ : ∃ below, room = below + 1 ∧ listNestingAll kids ≤ below := by
      simp only [listNesting, hname, if_pos] at hroom
      exact ⟨room - 1, by omega, by omega⟩
    have hitems := (outlineWalked kids room 0 hnesting).1 hkids
    have hlines := forall_mem_lines ((isProper_entries kids 0).1 hkids (isNumbered name) 1)
    have hstarts : ∀ item ∈ (walkItems room 0 kids).value, StartsSolid item :=
      fun item hitem => (isSolid_of_mem_walkItems hitem).starts
    have hsolid := isSolid_unlines_listLines hstarts (isNumbered name)
    rw [hitems.lines] at hsolid
    rw [outline]
    refine ⟨_, rfl, hitems.walk_list hname, hsolid, ?_⟩
    exact not_hasBlankRun_unlines (fun l hl => (hlines l hl).1.isAllBlank_eq_false)
      fun l hl => (hlines l hl).2

/-- A list that is nested no deeper than the limit, and whose labels show more than blanks, is
converted to its outline: one line for each item that has a label, in document order. -/
theorem convertDocument_outline (c : Converter) (list : Node)
    (hlist : isOutline isShownLabel list) (hlimit : (listNesting list : Int) ≤ c.limit) :
    (c.convertDocument [list]).outcome =
      .ok (unlines ((outline 0 list).map OutlineEntry.line), c) := by
  have hroom : listNesting list ≤ c.room := by
    rw [Converter.room]
    omega
  obtain ⟨t, ht, hwalk, hsolid, hrun⟩ := walk_outline hlist hroom
  rw [← ht, Converter.convertDocument_outcome_iff, walkAll_singleton, hwalk]
  refine ⟨rfl, ?_, by simp [Marked.clear]⟩
  rw [Marked.clear, settle_block hsolid, collapseBlankLines_eq_self hrun]

/-- A numbered list around a plain one around a numbered one, with blanks, an item without content
and a label that has a reference and a line feed. -/
def mixedLists : Node :=
  .element "ol".toList [] [
    .text .plain "\n".toList,
    .element "li".toList [] [.text .plain " a ".toList, .text .plain "\n".toList,
      .element "ul".toList [] [
        .element "li".toList [] [.text .plain "b &amp;\n1. c".toList,
          .element "ol".toList [] [.element "li".toList [] [.text .plain "- d".toList]],
          .element "ul".toList [] []],
        .element "li".toList [] [.text .plain " ".toList],
        .element "li".toList [] [.text .plain "e".toList]]],
    .element "li".toList [] [],
    .element "li".toList [] [.text .plain "f".toList]]

theorem convertDocument_outline_mixedLists :
    isOutline isShownLabel mixedLists ∧ ((listNesting mixedLists : Int) ≤ 3) ∧
      (Converter.convertDocument ⟨3, false⟩ [mixedLists]).outcome =
        .ok ("1. a\n  - b & 1. c\n    1. - d\n  - e\n2. f".toList, ⟨3, false⟩) := by
  have hlist : isOutline isShownLabel mixedLists := by decide
  have hlimit : (listNesting mixedLists : Int) ≤ 3 := by decide
  refine ⟨hlist, hlimit, (convertDocument_outline _ mixedLists hlist hlimit).trans ?_⟩
  rfl

/-- A list around another one, labelled with a reference to a blank. -/
def blankLabel : Node :=
  .element "ul".toList [] [.element "li".toList [] [.text .plain "&nbsp;".toList,
    .element "ul".toList [] [.element "li".toList [] [.text .plain "x".toList]]]]

/-- A label that is filled as it stands and blank as it is shown does not take a line: the list
below it moves up behind the marker. -/
theorem convertDocument_outline_blankLabel :
    isOutline (fun raw => !isAllBlank raw) blankLabel ∧ ((listNesting blankLabel : Int) ≤ 2) ∧
      outline 0 blankLabel = [⟨0, none, []⟩, ⟨1, none, ['x']⟩] ∧
      (Converter.convertDocument ⟨2, false⟩ [blankLabel]).outcome =
        .ok ("- - x".toList, ⟨2, false⟩) ∧
      unlines ((outline 0 blankLabel).map OutlineEntry.line) ≠ "- - x".toList := by
  refine ⟨by decide, by decide, by decide, ?_, by decide⟩
  exact (Converter.convertDocument_outcome_iff ..).mpr ⟨by decide, by decide, by decide⟩

end PageMarkdown.Markdown
