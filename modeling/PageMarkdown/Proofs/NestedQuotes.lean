import PageMarkdown.Proofs.TreeLayout

/-!
# Quotations inside quotations

A quotation puts a mark in front of each line of its content that is not blank.
A line that has a mark is trimmed and filled already, so a quotation around it
takes it as it is and puts its own mark in front. Quotations that are nested
directly in one another therefore leave the lines of the innermost content with
one mark for each of them, in order.
-/

namespace PageMarkdown.Markdown

open Text Html

/-- A trimmed line behind the marks of so many quotations. -/
def quotedLine (n : Nat) (line : Text) : Text :=
  (List.replicate n ['>', ' ']).flatten ++ trim line

/-- What so many quotations make of a content: its lines that are not blank, each behind its marks,
between empty lines; or nothing. -/
def quotation (n : Nat) (content : Text) : Text :=
  if filledLines (trim content) = [] then []
  else ['\n', '\n'] ++ unlines ((filledLines (trim content)).map (quotedLine n)) ++ ['\n', '\n']

/-- The node consists of so many quotations, each the only child of the one around it, and the nodes
are the children of the innermost one. -/
inductive NestsQuotes (kids : List Node) : Nat → Node → Prop where
  /-- One quotation around the nodes. -/
  | innermost {name : Text} {attributes : Attributes} (hname : Role.ofName name = .quote) :
      NestsQuotes kids 1 (.element name attributes kids)
  /-- A quotation around quotations. -/
  | around {n : Nat} {node : Node} {name : Text} {attributes : Attributes}
      (hname : Role.ofName name = .quote) (hnode : NestsQuotes kids n node) :
      NestsQuotes kids (n + 1) (.element name attributes [node])

/-! ## Quoted lines -/

theorem quotedLine_succ (n : Nat) (line : Text) :
    quotedLine (n + 1) line = '>' :: ' ' :: quotedLine n line := by
  rw [quotedLine, List.replicate_succ, List.flatten_cons, List.append_assoc]
  rfl

section

variable {line : Text}

/-- A filled line has solid ends behind its marks. -/
theorem isSolid_quotedLine (h : isAllBlank line = false) (n : Nat) :
    IsSolid (quotedLine n line) := by
  induction n with
  | zero => exact isSolid_trim h
  | succ n ih =>
    rw [quotedLine_succ]
    exact ⟨startsSolid_cons rfl _, (ih.ends.cons ' ').cons '>'⟩

/-- The marks end no line. -/
theorem isBreak_quotedLine (h : ∀ c ∈ line, isBreak c = false) (n : Nat) :
    ∀ c ∈ quotedLine n line, isBreak c = false := by
  induction n with
  | zero => exact fun c hc => h c ((infix_trim line).subset hc)
  | succ n ih =>
    rw [quotedLine_succ]
    exact List.forall_mem_cons.mpr ⟨rfl, List.forall_mem_cons.mpr ⟨rfl, ih⟩⟩

end

/-- Lines behind marks are the filled lines of their join. -/
theorem filledLines_quotedLines (n : Nat) (t : Text) :
    filledLines (unlines ((filledLines t).map (quotedLine n))) =
      (filledLines t).map (quotedLine n) := by
  refine filledLines_unlines (List.forall_mem_map.mpr fun line hline => ?_)
    (List.forall_mem_map.mpr fun line hline => ?_)
  · exact (isSolid_quotedLine (of_mem_filledLines hline).1 n).starts.isAllBlank_eq_false
  · exact isBreak_quotedLine (of_mem_filledLines hline).2 n

/-- The join of lines behind marks has solid ends. -/
theorem isSolid_quotedLines (n : Nat) {t : Text} (h : filledLines t ≠ []) :
    IsSolid (unlines ((filledLines t).map (quotedLine n))) := by
  have hsolid : ∀ l ∈ (filledLines t).map (quotedLine n), IsSolid l :=
    List.forall_mem_map.mpr fun line hline => isSolid_quotedLine (of_mem_filledLines hline).1 n
  obtain ⟨line, ls, hlines⟩ := List.exists_cons_of_ne_nil (mt List.map_eq_nil_iff.mp h)
  rw [hlines] at hsolid ⊢
  exact ⟨startsSolid_unlines (hsolid line List.mem_cons_self).starts ls,
    endsSolid_unlines (List.cons_ne_nil _ _) fun l hl => (hsolid l hl).ends⟩

/-! ## Quotations -/

/-- A quotation writes the filled lines of its content behind one more mark than they have. -/
theorem quoteMarkdown_eq_block (t : Text) :
    quoteMarkdown t = block (unlines ((filledLines t).map (quotedLine 1))) := rfl

/-- Quotations are a block of lines. -/
theorem quotation_eq_block (n : Nat) (content : Text) :
    quotation n content =
      block (unlines ((filledLines (trim content)).map (quotedLine n))) := by
  rw [quotation]
  split
  · rename_i hnone
    rw [hnone]
    rfl
  · rename_i hsome
    rw [block, if_neg]
    simpa using (isSolid_quotedLines n hsome).starts.ne_nil

/-- One quotation. -/
theorem quotation_one (content : Text) : quotation 1 content = quoteMarkdown (trim content) := by
  rw [quotation_eq_block, quoteMarkdown_eq_block]

/-- A quotation around quotations is one quotation more. -/
theorem quoteMarkdown_quotation (n : Nat) (content : Text) :
    quoteMarkdown (trim (quotation n content)) = quotation (n + 1) content := by
  have hblank : ∀ c ∈ ['\n', '\n'], isBlank c = true :=
    List.forall_mem_cons.mpr ⟨rfl, List.forall_mem_singleton.mpr rfl⟩
  rw [quoteMarkdown_eq_block, quotation_eq_block (n + 1)]
  by_cases hnone : filledLines (trim content) = []
  · rw [quotation, if_pos hnone, hnone]
    rfl
  · have hsolid := isSolid_quotedLines n hnone
    rw [quotation, if_neg hnone, hsolid.isTrimmed.trim_append hblank hblank,
      filledLines_quotedLines, List.map_map]
    congr 2
    refine List.map_congr_left fun line hline => ?_
    have htrimmed := (isSolid_quotedLine (of_mem_filledLines hline).1 n).isTrimmed
    rw [Function.comp_apply, quotedLine_succ n, quotedLine_succ 0, quotedLine,
      htrimmed.trim_eq]
    rfl

namespace Converter

variable {n : Nat} {node : Node} {kids : List Node}

/-- Nodes of which there is one are converted as that one is. -/
theorem contentText_singleton (c : Converter) (depth : Nat) (node : Node) :
    c.contentText depth [node] = c.nodeText depth node := by
  rw [contentText, nodeText, convertAll, convert, walkAll_singleton]

/-- Whatever stands inside of quotations that are nested directly in one another within the limit,
they are refused as their content is. Otherwise they are nothing when the content has no line but
blank ones, and else two line feeds, the lines of the trimmed content that are not blank, in order,
each trimmed and with one mark in front for every quotation, and two line feeds. -/
theorem nodeText_nestedQuotes (c : Converter) (h : NestsQuotes kids n node) (hlimit : n ≤ c.limit)
    (depth : Nat) :
    c.nodeText depth node = ((within^[n] c).contentText depth kids).map (quotation n) := by
  induction h generalizing c with
  | innermost hname =>
    have hshown : ∀ attributes,
        shown _ attributes kids = .content fun t => quoteMarkdown (trim t) :=
      fun attributes => by rw [shown, hname]
    rw [c.nodeText_framed (by omega) depth (hshown _)]
    simp only [Function.iterate_one, ← quotation_one]
  | @around n node name attributes hname hnode ih =>
    have hshown : shown name attributes [node] = .content fun t => quoteMarkdown (trim t) := by
      rw [shown, hname]
    have hinner := ih c.within (by simp only [within]; omega)
    rw [c.nodeText_framed (by omega) depth hshown, contentText_singleton, hinner,
      Function.iterate_succ_apply]
    cases (within^[n] c.within).contentText depth kids with
    | error e => rfl
    | ok content =>
      simp only [Except.map, quoteMarkdown_quotation]

/-- Preformatted text whose lines end at a Unicode separator, a line feed and both, and a list. -/
def separatedLines : List Node :=
  [.element "pre".toList [] [.text .plain " a\u2028 b \u2028\nc\x0b".toList],
    .element "ul".toList [] [.element "li".toList [] [.text .plain "d".toList]]]

/-- Three quotations around them, one of them in capital letters. -/
def quotedLines : Node :=
  .element "blockquote".toList [] [.element "BLOCKQUOTE".toList
    [("cite".toList, .single "/".toList)] [.element "blockquote".toList [] separatedLines]]

theorem nodeText_nestedQuotes_separatedLines :
    let c : Converter := ⟨5, false⟩
    NestsQuotes separatedLines 3 quotedLines ∧ (3 : Nat) ≤ c.limit ∧
      (within^[3] c).contentText 0 separatedLines =
        .ok "\n\n\x60\x60\x60\n a\u2028 b \u2028\nc\n\x60\x60\x60\n\n\n\n- d\n\n".toList ∧
      c.nodeText 0 quotedLines =
        .ok ("\n\n> > > \x60\x60\x60\n> > > a\n> > > b\n> > > c\n".toList ++
          "> > > \x60\x60\x60\n> > > - d\n\n".toList) := by
  have hquotes : NestsQuotes separatedLines 3 quotedLines :=
    .around (by decide) (.around (by decide) (.innermost (by decide)))
  have hcontent : (within^[3] ⟨5, false⟩).contentText 0 separatedLines =
      .ok "\n\n\x60\x60\x60\n a\u2028 b \u2028\nc\n\x60\x60\x60\n\n\n\n- d\n\n".toList := by
    decide +kernel
  refine ⟨hquotes, by decide, hcontent, ?_⟩
  rw [nodeText_nestedQuotes ⟨5, false⟩ hquotes (by decide) 0, hcontent]
  decide +kernel

end Converter

end PageMarkdown.Markdown
