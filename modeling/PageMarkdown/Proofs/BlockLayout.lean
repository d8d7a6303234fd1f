import PageMarkdown.Proofs.ListLines
import PageMarkdown.Proofs.Text.Layout
import PageMarkdown.Proofs.Text.Replace
import PageMarkdown.Proofs.Unseen

/-!
# How marks are laid out on lines

Whatever an element writes around a text, the layout of the result comes from the
layout of the text. Blocks set the trimmed text off by empty lines, emphases and
code keep its inside, fences keep its start as well, and quotations and lists keep
no more of it than whether it has several filled lines. A table has at least two.
-/

namespace PageMarkdown.Text.Layout

/-! ## Layouts of blocks -/

/-- A trimmed text between empty lines; blanks make no block. -/
def asBlock : Layout → Layout := fromInside fun inside => inked ⟨2, true⟩ inside ⟨2, true⟩

/-- A block of filled lines, of one or of several. -/
def ofLines (several : Bool) : Layout := asBlock (inked 0 (if several then .feed else 0) 0)

/-- The filled lines of a text as a block. -/
def asLines : Layout → Layout := fromInside fun inside => ofLines inside.any

/-- The filled lines of the items of a list as a block. -/
def asList : List Layout → Layout
  | [] => bare 0
  | [item] => item.asLines
  | _ => ofLines true

/-- A text as it is, but for its end, between fences on lines of their own. -/
def asFenced : Layout → Layout
  | bare _ => bare 0
  | inked before inside _ => asBlock (inked 0 (max (.feed + before) inside) 0)

/-- The text of a link between its marks. Where it is blank it is the target, and without a safe
target there are no marks. -/
def asLink (target : Text) (content : Layout) : Layout :=
  let shown := if content.isBare then of target else content.core
  let url := Url.sanitize target
  if url.isEmpty then shown else inked 0 0 0 ++ shown ++ of (']' :: '(' :: url ++ [')'])

end PageMarkdown.Text.Layout

namespace PageMarkdown.Markdown

open Text Html

/-! ## What is written around a text -/

/-- What comes to nothing for the empty text is laid out, for a trimmed text, by what is inside. -/
theorem layout_of_trim {f : Text → Text} {make : Breaks → Layout} (hnil : f [] = [])
    (hsolid : ∀ {u : Text} {inside : Breaks}, IsSolid u → Layout.of u = .inked 0 inside 0 →
      Layout.of (f u) = make inside) (t : Text) :
    Layout.of (f (trim t)) = (Layout.of t).fromInside make := by
  have hbare := Layout.isBare_of t
  have htrim := Layout.of_trim t
  cases hlayout : Layout.of t with
  | bare breaks =>
    rw [hlayout] at hbare
    rw [(trim_eq_nil_iff t).mpr hbare.symm, hnil]
    rfl
  | inked before inside after =>
    rw [hlayout] at hbare htrim
    exact hsolid (isSolid_trim hbare.symm) htrim

theorem ne_nil_of_inked {t : Text} {before inside after : Breaks}
    (h : Layout.of t = .inked before inside after) : t ≠ [] := by
  rintro rfl
  cases h

/-- Empty lines around a solid text. -/
theorem layout_between {t : Text} {inside : Breaks} (h : Layout.of t = .inked 0 inside 0) :
    Layout.of (['\n', '\n'] ++ t ++ ['\n', '\n']) = (Layout.inked 0 inside 0).asBlock := by
  have hblank : ∀ c ∈ ['\n', '\n'], isBlank c = true :=
    List.forall_mem_cons.mpr ⟨rfl, List.forall_mem_singleton.mpr rfl⟩
  exact Layout.of_around hblank hblank h

theorem layout_block {t : Text} {inside : Breaks} (h : Layout.of t = .inked 0 inside 0) :
    Layout.of (block t) = (Layout.inked 0 inside 0).asBlock := by
  rw [block, if_neg (by simpa using ne_nil_of_inked h), layout_between h]

theorem layout_block_trim (t : Text) : Layout.of (block (trim t)) = (Layout.of t).asBlock :=
  layout_of_trim rfl (fun _ h => layout_block h) t

theorem layout_headingMarkdown (level : Nat) (t : Text) :
    Layout.of (headingMarkdown level (trim t)) = (Layout.of t).asBlock := by
  refine layout_of_trim rfl (fun {u inside} _ h => ?_) t
  have hmarks : Layout.of (List.replicate level '#' ++ ' ' :: u) = .inked 0 inside 0 := by
    induction level with
    | zero => rw [List.replicate_zero, List.nil_append, Layout.of_cons, h]; rfl
    | succ level ih =>
      rw [List.replicate_succ, List.cons_append, Layout.of_cons, ih, Layout.ofChar_solid rfl]
      simp
  rw [headingMarkdown, if_neg (by simpa using ne_nil_of_inked h), layout_block hmarks]
  rfl

theorem layout_enclosed {mark t : Text} (hmark : Layout.of mark = .inked 0 0 0) {inside : Breaks}
    (h : Layout.of t = .inked 0 inside 0) : Layout.of (enclosed mark t) = .inked 0 inside 0 := by
  rw [enclosed, if_neg (by simpa using ne_nil_of_inked h), Layout.of_append, Layout.of_append,
    hmark, h]
  simp

theorem layout_enclosed_trim {mark : Text} (hmark : Layout.of mark = .inked 0 0 0) (t : Text) :
    Layout.of (enclosed mark (trim t)) = (Layout.of t).core :=
  layout_of_trim rfl (fun _ h => layout_enclosed hmark h) t

/-- Escapes of a solid character leave the layout as it is. -/
theorem layout_replace {old : Char} (hold : isBlank old = false) {new : Text}
    (hnew : Layout.of new = .inked 0 0 0) (t : Text) :
    Layout.of (replace old new t) = Layout.of t := by
  induction t with
  | nil => rfl
  | cons c t ih =>
    by_cases hc : c = old
    · rw [hc, replace_cons_self, Layout.of_append, ih, hnew, Layout.of_cons,
        Layout.ofChar_solid hold]
    · rw [replace_cons_of_ne hc, Layout.of_cons, ih, Layout.of_cons]

theorem layout_codeMarkdown (t : Text) : Layout.of (codeMarkdown t) = (Layout.of t).core :=
  layout_of_trim (f := fun u => enclosed ['\x60'] (replace '\x60' ['\\', '\x60'] u)) rfl
    (fun _ h => layout_enclosed rfl ((layout_replace rfl rfl _).trans h)) t

theorem layout_preformattedMarkdown (t : Text) :
    Layout.of (preformattedMarkdown t) = (Layout.of t).asFenced := by
  cases hlayout : Layout.of t with
  | bare breaks =>
    have hblank := Layout.isBare_of t
    rw [hlayout] at hblank
    rw [preformattedMarkdown, trimRight_eq_nil (List.all_eq_true.mp hblank.symm)]
    rfl
  | inked before inside after =>
    have hbody := Layout.of_trimRight hlayout
    have hfeed : Layout.ofChar '\n' = .bare .feed := rfl
    have hwide : max (max (.feed + before) inside) .feed = max (.feed + before) inside := by
      ext
      · simp only [Breaks.feeds_max, Breaks.feeds_add, Breaks.feed]
        omega
      · simp [Breaks.feed]
    have hfenced : ∀ {fence : Text}, Layout.of fence = .inked 0 0 0 →
        Layout.of (fence ++ '\n' :: trimRight t ++ '\n' :: fence) =
          .inked 0 (max (.feed + before) inside) 0 := by
      intro fence hfence
      rw [Layout.of_append, Layout.of_append, Layout.of_cons, Layout.of_cons, hfence, hfeed, hbody]
      simp [hwide]
    rw [preformattedMarkdown, if_neg (by simpa using ne_nil_of_inked hbody),
      layout_block (hfenced rfl)]
    rfl

/-- Where the content is blank, its fallback is laid out instead. -/
theorem layout_firstFilled_trim (t fallback : Text) :
    Layout.of (firstFilled (trim t) fallback) =
      if (Layout.of t).isBare then Layout.of fallback else (Layout.of t).core := by
  rw [firstFilled, Layout.isBare_of, ← Layout.of_trim]
  cases hblank : isAllBlank t with
  | true => rw [(trim_eq_nil_iff t).mpr hblank]; rfl
  | false => rw [if_neg (by simpa using (isSolid_trim hblank).starts.ne_nil)]; rfl

theorem layout_linkMarkdown (target t : Text) :
    Layout.of (linkMarkdown target (trim t)) = (Layout.of t).asLink target := by
  rw [linkMarkdown, Layout.asLink, ← layout_firstFilled_trim]
  cases Url.sanitize target with
  | nil => rfl
  | cons c url =>
    show Layout.of ('[' :: firstFilled (trim t) target ++ ']' :: '(' :: c :: url ++ [')']) = _
    rw [List.append_assoc, Layout.of_append, Layout.of_cons, Layout.ofChar_solid rfl]
    rfl

/-! ## Blocks of lines -/

/-- Filled lines as a block are one or several. -/
theorem layout_block_unlines {ls : List Text} (hne : ls ≠ [])
    (hfilled : ∀ l ∈ ls, isAllBlank l = false) (hunbroken : ∀ l ∈ ls, ∀ c ∈ l, isBreak c = false) :
    Layout.of (block (unlines ls)) = .ofLines (2 ≤ ls.length) := by
  rw [layout_block (Layout.of_unlines hne hfilled hunbroken), Layout.ofLines]
  simp only [decide_eq_true_eq]

theorem layout_quoteMarkdown (t : Text) :
    Layout.of (quoteMarkdown (trim t)) = (Layout.of t).asLines := by
  refine layout_of_trim rfl (fun {u inside} hsolid h => ?_) t
  obtain ⟨hone, hseveral⟩ := hsolid.length_filledLines h
  have hquote : quoteMarkdown u =
      block (unlines ((filledLines u).map fun line => '>' :: ' ' :: trim line)) := rfl
  have hne : filledLines u ≠ [] := List.length_pos_iff.mp hone
  rw [hquote, layout_block_unlines (by simpa using hne), List.length_map, hseveral]
  · exact List.forall_mem_map.mpr fun line _ => (startsSolid_cons rfl _).isAllBlank_eq_false
  · refine List.forall_mem_map.mpr fun line hline => ?_
    refine List.forall_mem_cons.mpr ⟨rfl, List.forall_mem_cons.mpr ⟨rfl, fun c hc => ?_⟩⟩
    exact (of_mem_filledLines hline).2 c ((infix_trim line).subset hc)

/-- A list has the filled lines of its items. -/
theorem length_listLines {items : List Text} (h : ∀ item ∈ items, StartsSolid item)
    (ordered : Bool) (depth number : Nat) :
    (listLines ordered depth number items).length =
      (items.map fun item => (filledLines item).length).sum := by
  induction items generalizing number with
  | nil => rfl
  | cons item items ih =>
    obtain ⟨hitem, hitems⟩ := List.forall_mem_cons.mp h
    obtain ⟨first, rest, hfilled, -, hlines⟩ := itemLines_eq hitem
    rw [listLines, List.length_append, ih hitems, hlines, List.map_cons, List.sum_cons, hfilled]
    simp

theorem layout_renderList {items : List Text} (h : ∀ item ∈ items, IsSolid item) (ordered : Bool)
    (depth : Nat) : Layout.of (renderList ordered depth items) = .asList (items.map Layout.of) := by
  have hstarts : ∀ item ∈ items, StartsSolid item := fun item hitem => (h item hitem).starts
  have htrim : ∀ item ∈ items, trim item = item := fun item hitem =>
    (h item hitem).isTrimmed.trim_eq
  have hwrites := writesItems_listLines
    (fun item hitem => (htrim item hitem).symm ▸ h item hitem) ordered depth 1
  rw [List.map_congr_left htrim, List.map_id'] at hwrites
  cases items with
  | nil => rfl
  | cons item items =>
    have hne : listLines ordered depth 1 (item :: items) ≠ [] :=
      mt hwrites.eq_nil_iff.mp (List.cons_ne_nil item items)
    obtain ⟨hitem, hitems⟩ := List.forall_mem_cons.mp h
    obtain ⟨inside, hinside⟩ := Layout.of_isSolid hitem
    obtain ⟨hone, hseveral⟩ := hitem.length_filledLines hinside
    rw [renderList_eq_block hstarts, layout_block_unlines hne hwrites.filled hwrites.unbroken,
      length_listLines hstarts, List.map_cons, List.sum_cons]
    cases items with
    | nil =>
      show Layout.ofLines (2 ≤ (filledLines item).length + 0) = (Layout.of item).asLines
      rw [hinside, Nat.add_zero, hseveral]
      rfl
    | cons next items =>
      obtain ⟨inside', hinside'⟩ := Layout.of_isSolid (hitems next List.mem_cons_self)
      have hnext := ((hitems next List.mem_cons_self).length_filledLines hinside').1
      have htwo : 2 ≤ (filledLines item).length +
          ((next :: items).map fun item => (filledLines item).length).sum := by
        rw [List.map_cons, List.sum_cons]
        omega
      rw [decide_eq_true htwo]
      rfl

/-! ## Tables -/

theorem isAllBlank_joinLinesFrom (joined : Bool) (t : Text) :
    isAllBlank (joinLinesFrom joined t) = isAllBlank t := by
  induction t generalizing joined with
  | nil => cases joined <;> rfl
  | cons c t ih =>
    rw [isAllBlank_cons]
    cases hc : isBlank c <;> cases joined <;> simp only [joinLinesFrom, hc]
    · exact (isAllBlank_cons c _).trans (by rw [hc]; rfl)
    · exact (isAllBlank_cons c _).trans (by rw [hc]; rfl)
    · split
      · exact ih true
      · rw [isAllBlank_cons, hc, ih]
    · exact ih true

theorem isAllBlank_dropEmptyLines (t : Text) : isAllBlank (dropEmptyLines t) = isAllBlank t := by
  fun_induction dropEmptyLines t with
  | case1 => rfl
  | case2 c t h ih =>
    simp only [Bool.and_eq_true, decide_eq_true_eq] at h
    rw [ih, h.1]
    rfl
  | case3 c t h ih => rw [isAllBlank_cons, isAllBlank_cons, ih]

/-- A cell is empty exactly when its content is blank. -/
theorem normalizeCell_eq_nil_iff (t : Text) : normalizeCell t = [] ↔ isAllBlank t = true := by
  rw [normalizeCell, trim_eq_nil_iff, isAllBlank_squeeze, isAllBlank_joinLinesFrom, isAllBlank_trim,
    isAllBlank_dropEmptyLines, isAllBlank_unifyBreaks]

/-- The lines of a table are filled and have no break in them. -/
theorem of_mem_tableLines {columns : List Nat} {header : TableRow} {others : List TableRow}
    (hne : columns ≠ []) (hflat : ∀ r ∈ header :: others, ∀ t ∈ r.cells, IsFlat t) {l : Text}
    (hl : l ∈ tableLines columns header others) :
    isAllBlank l = false ∧ ∀ c ∈ l, isBreak c = false := by
  constructor
  · simp only [tableLines, List.mem_cons, List.mem_map] at hl
    rcases hl with rfl | rfl | ⟨r, -, rfl⟩ <;>
      exact (startsSolid_cons rfl _).isAllBlank_eq_false
  · rw [← lines_unlines_tableLines hne hflat] at hl
    exact fun c hc => (mem_of_mem_lines hl c hc).2

/-- A table has a line for its header and one for the rule, unless all its cells are empty. -/
theorem layout_renderTable {rows : List TableRow} (hflat : ∀ r ∈ rows, ∀ t ∈ r.cells, IsFlat t) :
    Layout.of (renderTable rows) =
      if rows.any fun r => r.cells.any fun cell => !cell.isEmpty then .ofLines true
      else .bare 0 := by
  cases hcontent : rows.any fun r => r.cells.any fun cell => !cell.isEmpty with
  | false =>
    have hempty : ∀ r ∈ rows, ∀ cell ∈ r.cells, cell = [] := by simpa using hcontent
    rw [renderTable_of_empty hempty]
    rfl
  | true =>
    obtain ⟨r, hr, hcells⟩ := List.any_eq_true.mp hcontent
    obtain ⟨cell, hcell, hfilled⟩ := List.any_eq_true.mp hcells
    obtain ⟨i, hi, rfl⟩ := List.mem_iff_getElem.mp hcell
    have hcolumn : i ∈ columnsOf rows := by
      refine ((contentColumns_columnsOf rows).mem_iff i).mpr ⟨r, hr, ?_⟩
      rw [List.getD_eq_getElem _ _ hi]
      simpa using hfilled
    obtain ⟨header, hheader, hrender⟩ :=
      renderTable_eq (List.ne_nil_of_mem hr) (List.ne_nil_of_mem hcolumn)
    have hothers : ∀ r ∈ rows.eraseIdx (headerIndex rows), ∀ t ∈ r.cells, IsFlat t := fun r hr =>
      hflat r (List.mem_of_mem_eraseIdx hr)
    have hlines := fun l => of_mem_tableLines (l := l) (List.ne_nil_of_mem hcolumn)
      (List.forall_mem_cons.mpr ⟨hflat header (List.mem_of_getElem? hheader), hothers⟩)
    have hne : tableLines (columnsOf rows) header (rows.eraseIdx (headerIndex rows)) ≠ [] :=
      List.cons_ne_nil _ _
    have hunlines := Layout.of_unlines hne (fun l hl => (hlines l hl).1) fun l hl => (hlines l hl).2
    have hseveral : 2 ≤ (tableLines (columnsOf rows) header
        (rows.eraseIdx (headerIndex rows))).length := by
      simp [tableLines]
    rw [hrender, layout_between hunlines, if_pos hseveral]
    rfl

end PageMarkdown.Markdown
