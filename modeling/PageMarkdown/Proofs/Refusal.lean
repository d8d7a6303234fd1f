import PageMarkdown.Proofs.Conversion
import PageMarkdown.Proofs.Element
import PageMarkdown.Proofs.Html.Node
import PageMarkdown.Proofs.Html.Tree

/-!
# When a conversion is refused

The walk resolves the references of some strings of a tree, and they can be listed
without walking it. A conversion ends without a result exactly when the tree builder
of its parser ends in a fault, or when resolving refuses the first of these strings
that it refuses. As long as the parser adds nothing to the markup, both need a
numeral with too many digits, for which shorter markup has no room. The default
parser never adds anything.
-/

namespace PageMarkdown.Markdown

open Text Html Numeral

/-! ## The strings that a walk reads -/

mutual

/-- The strings at a node whose references the walk resolves, in order. -/
def stringsAt (room : Nat) : Node → List Text
  | .text kind content => if kind.isRead then [content] else []
  | .element name attributes kids =>
    match room with
    | 0 => []
    | room + 1 =>
      match shown name attributes kids with
      | .fixed _ => []
      | .content _ => stringsIn room kids
      | .items _ => stringsInItems room kids
      | .rows => if name = "table".toList then stringsInRows room kids else []

/-- The strings that are resolved in nodes, one after another. -/
def stringsIn (room : Nat) : List Node → List Text
  | [] => []
  | node :: others => stringsAt room node ++ stringsIn room others

/-- The strings that are resolved in the items among the children of a list. -/
def stringsInItems (room : Nat) : List Node → List Text
  | [] => []
  | .text _ _ :: others => stringsInItems room others
  | .element name _ kids :: others =>
    (if lower name = "li".toList then stringsIn room kids else []) ++ stringsInItems room others

/-- The strings that are resolved in the rows below nodes. -/
def stringsInRows (room : Nat) : List Node → List Text
  | [] => []
  | .text _ _ :: others => stringsInRows room others
  | .element name _ kids :: others =>
    (if name = "table".toList then []
      else (if name = "tr".toList then stringsInCells room kids else []) ++
        stringsInRows room kids) ++ stringsInRows room others

/-- The strings that are resolved in the cells among the children of a row. -/
def stringsInCells (room : Nat) : List Node → List Text
  | [] => []
  | .text _ _ :: others => stringsInCells room others
  | .element name _ kids :: others =>
    (if lower name = "th".toList || lower name = "td".toList then stringsIn room kids else []) ++
      stringsInCells room others

end

/-- The first numeral that the marks of a result refuse. -/
def Marked.refused? {α : Type} (m : Marked α) : Option TooLong := m.marks.findSome? Mark.refused?

/-- The first numeral that is refused in strings. -/
def refusedIn? (strings : List Text) : Option TooLong := strings.findSome? Reference.refusal?

theorem refusedIn?_append (strings others : List Text) :
    refusedIn? (strings ++ others) = (refusedIn? strings).or (refusedIn? others) :=
  List.findSome?_append

namespace Marked

variable {α β : Type}

theorem refused?_map (f : α → β) (m : Marked α) : (m.map f).refused? = m.refused? := rfl

theorem refused?_append (m n : Marked (List α)) :
    (m ++ n).refused? = m.refused?.or n.refused? :=
  List.findSome?_append

end Marked

/-- A string is marked when it is refused. -/
theorem refused?_stringMarkdown (t : Text) :
    (stringMarkdown t).refused? = refusedIn? [t] := by
  rw [stringMarkdown, shownText, refusedIn?, List.findSome?_singleton, Reference.refusal?]
  cases Reference.resolveAll t <;> rfl

theorem refused?_tableMarkdown (rows : Marked (List TableRow)) :
    (tableMarkdown rows).refused? = rows.refused? := by
  rw [tableMarkdown, Marked.refused?, List.findSome?_append]
  split <;> simp [Mark.refused?, Marked.refused?]

/-- The walks over nodes refuse what is refused in the strings that they resolve. -/
structure ReadsStrings (room : Nat) (nodes : List Node) : Prop where
  /-- As running text. -/
  content (depth : Nat) : (walkAll room depth nodes).refused? = refusedIn? (stringsIn room nodes)
  /-- As the children of a list. -/
  items (depth : Nat) :
    (walkItems room depth nodes).refused? = refusedIn? (stringsInItems room nodes)
  /-- Below a table. -/
  rows (inHead : Bool) :
    (walkRows room inHead nodes).refused? = refusedIn? (stringsInRows room nodes)
  /-- As the children of a row. -/
  cells : (walkCells room nodes).refused? = refusedIn? (stringsInCells room nodes)

/-- An element refuses what its children do, in the way in which it is shown. -/
theorem refused?_walk_element {room : Nat} (name : Text) (attributes : Attributes)
    {kids : List Node} (hkids : ∀ r, ReadsStrings r kids) (depth : Nat) :
    (walk room depth (.element name attributes kids)).refused? =
      refusedIn? (stringsAt room (.element name attributes kids)) := by
  cases room with
  | zero =>
    rw [walk_element_zero, stringsAt]
    rfl
  | succ room =>
    rw [walk_element_succ, stringsAt]
    cases shown name attributes kids with
    | fixed t => rfl
    | content frame => exact (hkids room).content depth
    | items ordered => exact (hkids room).items depth
    | rows =>
      dsimp only
      rw [refused?_tableMarkdown, tableRowsOf]
      split
      · exact (hkids room).rows false
      · rfl

namespace ReadsStrings

variable {room : Nat}

theorem nil : ReadsStrings room [] := by
  constructor
  · intro depth
    rw [walkAll, stringsIn]
    rfl
  · intro depth
    rw [walkItems, stringsInItems]
    rfl
  · intro inHead
    rw [walkRows, stringsInRows]
    rfl
  · rw [walkCells, stringsInCells]
    rfl

/-- A string in running text may be refused; elsewhere it is not read. -/
theorem text {others : List Node} (hothers : ReadsStrings room others) (kind : StringKind)
    (content : Text) : ReadsStrings room (.text kind content :: others) := by
  constructor
  · intro depth
    rw [walkAll, Marked.refused?_append, hothers.content, stringsIn, refusedIn?_append, walk,
      stringsAt]
    split
    · rw [refused?_stringMarkdown]
    · rfl
  · intro depth
    rw [walkItems, stringsInItems]
    exact hothers.items depth
  · intro inHead
    rw [walkRows, stringsInRows]
    exact hothers.rows inHead
  · rw [walkCells, stringsInCells]
    exact hothers.cells

/-- Items, rows and cells are entered without taking room. -/
theorem element {kids others : List Node} (hkids : ∀ r, ReadsStrings r kids)
    (hothers : ReadsStrings room others) (name : Text) (attributes : Attributes) :
    ReadsStrings room (.element name attributes kids :: others) := by
  -- Only running text takes a unit of room; the other three walks enter with what they have.
  have hsame := hkids room
  constructor
  · intro depth
    rw [walkAll, Marked.refused?_append, refused?_walk_element name attributes hkids,
      hothers.content, stringsIn, refusedIn?_append]
  · intro depth
    rw [walkItems, stringsInItems, refusedIn?_append]
    split
    · rw [Marked.refused?_append, Marked.refused?_map, hsame.content, hothers.items]
    · exact hothers.items depth
  · intro inHead
    rw [walkRows, Marked.refused?_append, hothers.rows, stringsInRows, refusedIn?_append]
    congr 1
    split
    · rfl
    · rw [Marked.refused?_append, hsame.rows, refusedIn?_append]
      congr 1
      split
      · rw [rowOf, Marked.refused?_map, hsame.cells]
      · rfl
  · rw [walkCells, stringsInCells, refusedIn?_append]
    dsimp only
    split
    · rw [← hsame.content 0, ← hothers.cells]
      exact List.findSome?_append
    · exact hothers.cells

end ReadsStrings

/-- Whatever the nodes and the room, a walk refuses what is refused in the strings that it
resolves. -/
theorem readsStrings (nodes : List Node) (room : Nat) : ReadsStrings room nodes := by
  induction nodes using Node.forest_induction generalizing room with
  | nil => exact .nil
  | text kind content others ih => exact (ih room).text kind content
  | element name attributes kids others ihKids ih =>
    exact .element ihKids (ih room) name attributes

/-- A document is converted unless a numeral is refused in the strings that are resolved. -/
theorem documentText_eq_unlessRefused (c : Converter) (nodes : List Node) :
    c.documentText nodes =
      unlessRefused (refusedIn? (stringsIn c.room nodes))
        (Converter.settle (walkAll c.room 0 nodes).value) := by
  rw [Converter.documentText_eq, ← (readsStrings nodes c.room).content 0]
  rfl

/-! ## Strings of the tree -/

/-- What the walks over nodes resolve are strings below the nodes that are read. -/
structure ResolvesOwn (room : Nat) (nodes : List Node) : Prop where
  /-- As running text. -/
  content : stringsIn room nodes ⊆ Node.readStrings nodes
  /-- As the children of a list. -/
  items : stringsInItems room nodes ⊆ Node.readStrings nodes
  /-- Below a table. -/
  rows : stringsInRows room nodes ⊆ Node.readStrings nodes
  /-- As the children of a row. -/
  cells : stringsInCells room nodes ⊆ Node.readStrings nodes

theorem append_subset_append {s t u v : List Text} (hst : s ⊆ t) (huv : u ⊆ v) :
    s ++ u ⊆ t ++ v :=
  List.append_subset.mpr ⟨List.Subset.trans hst (List.subset_append_left ..),
    List.Subset.trans huv (List.subset_append_right ..)⟩

/-- An element has no strings but those of its children. -/
theorem stringsAt_element_subset {room : Nat} (name : Text) (attributes : Attributes)
    {kids : List Node} (hkids : ∀ r, ResolvesOwn r kids) :
    stringsAt room (.element name attributes kids) ⊆ Node.readStrings kids := by
  cases room with
  | zero =>
    rw [stringsAt]
    exact List.nil_subset _
  | succ room =>
    rw [stringsAt]
    cases shown name attributes kids with
    | fixed t => exact List.nil_subset _
    | content frame => exact (hkids room).content
    | items ordered => exact (hkids room).items
    | rows =>
      dsimp only
      split
      · exact (hkids room).rows
      · exact List.nil_subset _

namespace ResolvesOwn

variable {room : Nat}

theorem nil : ResolvesOwn room [] := by
  constructor
  · rw [stringsIn]
    exact List.nil_subset _
  · rw [stringsInItems]
    exact List.nil_subset _
  · rw [stringsInRows]
    exact List.nil_subset _
  · rw [stringsInCells]
    exact List.nil_subset _

theorem text {others : List Node} (hothers : ResolvesOwn room others) (kind : StringKind)
    (content : Text) : ResolvesOwn room (.text kind content :: others) := by
  have hbehind : Node.readStrings others ⊆ Node.readStrings (.text kind content :: others) := by
    rw [Node.readStrings_text]
    exact List.subset_append_right ..
  constructor
  · rw [stringsIn, stringsAt, Node.readStrings_text]
    exact append_subset_append (List.Subset.refl _) hothers.content
  · rw [stringsInItems]
    exact List.Subset.trans hothers.items hbehind
  · rw [stringsInRows]
    exact List.Subset.trans hothers.rows hbehind
  · rw [stringsInCells]
    exact List.Subset.trans hothers.cells hbehind

theorem element {kids others : List Node} (hkids : ∀ r, ResolvesOwn r kids)
    (hothers : ResolvesOwn room others) (name : Text) (attributes : Attributes) :
    ResolvesOwn room (.element name attributes kids :: others) := by
  have hsame := hkids room
  -- Each list consists of what comes from the children and what comes from the siblings.
  constructor <;> rw [Node.readStrings_element]
  · rw [stringsIn]
    exact append_subset_append (stringsAt_element_subset name attributes hkids)
      hothers.content
  · rw [stringsInItems]
    refine append_subset_append ?_ hothers.items
    split
    · exact hsame.content
    · exact List.nil_subset _
  · rw [stringsInRows]
    refine append_subset_append ?_ hothers.rows
    split
    · exact List.nil_subset _
    · refine List.append_subset.mpr ⟨?_, hsame.rows⟩
      split
      · exact hsame.cells
      · exact List.nil_subset _
  · rw [stringsInCells]
    refine append_subset_append ?_ hothers.cells
    split
    · exact hsame.content
    · exact List.nil_subset _

end ResolvesOwn

/-- Whatever the nodes and the room, only strings below the nodes are resolved. -/
theorem resolvesOwn (nodes : List Node) (room : Nat) : ResolvesOwn room nodes := by
  induction nodes using Node.forest_induction generalizing room with
  | nil => exact .nil
  | text kind content others ih => exact (ih room).text kind content
  | element name attributes kids others ihKids ih =>
    exact .element ihKids (ih room) name attributes

/-! ## Refusals -/

/-- Why the conversion of markup ends in a fault. Blank markup is never parsed. -/
inductive Refuses (env : Environment) (settings : Option ConvertSettings) (markup : Text) :
    Fault → Prop where
  /-- The parser ends in the fault, and does not just refuse the markup. -/
  | build {fault : Fault} (hfilled : isAllBlank markup = false)
      (hbuild : env.treeOf (ConvertSettings.inUse env settings).parser markup = .error fault) :
      Refuses env settings markup fault
  /-- A numeral is refused in the strings that the walk resolves. -/
  | walk {nodes : List Node} {n : TooLong} (hwalks : Walks env settings markup nodes)
      (hrefused : refusedIn? (stringsIn (Converter.make env
        (ConvertSettings.inUse env settings)).room (bodyOf nodes)) = some n) :
      Refuses env settings markup (.longNumeral n)

/-- A document ends in a fault when a numeral is refused in the strings that are resolved. -/
theorem documentText_eq_error_iff (c : Converter) (nodes : List Node) (fault : Fault) :
    c.documentText nodes = .error fault ↔
      ∃ n, fault = .longNumeral n ∧ refusedIn? (stringsIn c.room nodes) = some n := by
  rw [documentText_eq_unlessRefused]
  cases refusedIn? (stringsIn c.room nodes) with
  | none => simp [unlessRefused]
  | some n => simp [unlessRefused, eq_comm]

/-- A document is converted exactly when no string that is resolved holds a decimal reference with
too many digits. -/
theorem exists_documentText_iff (c : Converter) (nodes : List Node) :
    (∃ t, c.documentText nodes = .ok t) ↔
      ∀ s ∈ stringsIn c.room nodes, ∀ n, ¬ Reference.HoldsLong s n := by
  have hnone : (∀ s ∈ stringsIn c.room nodes, ∀ n, ¬ Reference.HoldsLong s n) ↔
      refusedIn? (stringsIn c.room nodes) = none := by
    rw [refusedIn?, List.findSome?_eq_none_iff]
    exact forall₂_congr fun s _ => (Reference.refusal?_eq_none_iff s).symm
  rw [hnone, documentText_eq_unlessRefused]
  cases refusedIn? (stringsIn c.room nodes) <;> simp [unlessRefused]

variable (env : Environment) (settings : Option ConvertSettings) (markup : Text)

/-- A conversion ends in a fault exactly when the markup is refused with it. -/
theorem ofHtml_eq_error_iff (fault : Fault) :
    (ofHtml env settings markup).outcome = .error fault ↔ Refuses env settings markup fault := by
  constructor
  · rw [ofHtml_outcome, convertedOrFault]
    intro h
    -- The questions are answered in turn; only the parser and the walk can end in a fault.
    split at h
    · cases h
    · rename_i hblank
      have hfilled : isAllBlank markup = false := by simpa using hblank
      split at h
      · rename_i hbuild
        obtain rfl := Except.error.inj h
        exact .build hfilled hbuild
      · cases h
      · rename_i nodes htree
        split at h
        · cases h
        · rename_i hroom
          obtain ⟨n, rfl, hn⟩ := (documentText_eq_error_iff ..).mp h
          exact .walk ⟨hfilled, htree, by simpa using hroom⟩ hn
  · rintro (⟨hfilled, hbuild⟩ | ⟨hwalks, hrefused⟩)
    · rw [ofHtml_outcome, hfilled, if_neg Bool.false_ne_true, convertedOrFault, hbuild]
    · rw [hwalks.ofHtml_outcome]
      exact (documentText_eq_error_iff ..).mpr ⟨_, rfl, hrefused⟩

/-- A parser adds nothing to markup: a fault that it ends in is about a numeral of the markup, and
the strings of its tree that are read are no longer than the markup, or than one character. -/
structure AddsNothing (env : Environment) (parser markup : Text) : Prop where
  /-- Only a numeral of the markup ends the parser in a fault. -/
  fault : ∀ fault, env.treeOf parser markup = .error fault →
    ∃ n, fault = .longNumeral n ∧ Reference.HoldsLong markup n
  /-- No string of a tree that is read is longer than the markup. -/
  short : ∀ nodes, env.treeOf parser markup = .ok (some nodes) →
    Node.AllShort (max 1 markup.length) nodes

/-- The default parser adds nothing to any markup. -/
theorem addsNothing_default : AddsNothing env defaultParser markup := by
  have haccounts := parse_accounts env.stray markup
  constructor
  · intro fault hfault
    obtain ⟨hne, build, hbuilder, hbuild⟩ := Environment.treeOf_eq_error_iff.mp hfault
    obtain rfl := Option.some.inj ((Environment.builder?_default env).symm.trans hbuilder)
    obtain ⟨e, hparse, rfl⟩ := Environment.build_eq_error_iff.mp hbuild
    rw [hparse] at haccounts
    cases e with
    | rejected => exact absurd rfl hne
    | longNumeral n => exact ⟨n, rfl, haccounts⟩
  · intro nodes htree
    rw [Environment.parse_of_treeOf htree] at haccounts
    exact haccounts

variable {env settings markup}

/-- Where the parser adds nothing, markup is refused for a numeral with more digits than are read,
and has room for them. -/
theorem Refuses.exists_longNumeral {fault : Fault} (h : Refuses env settings markup fault)
    (hadds : AddsNothing env (ConvertSettings.inUse env settings).parser markup) :
    ∃ n, fault = .longNumeral n ∧ digitLimit < n.digits ∧ n.digits + 2 ≤ markup.length := by
  -- The numeral stands in the markup or in a string of its tree, which is no longer.
  have hsource : ∃ n t, fault = .longNumeral n ∧ Reference.HoldsLong t n ∧
      t.length ≤ max 1 markup.length := by
    cases h with
    | build hfilled hbuild =>
      obtain ⟨n, rfl, hlong⟩ := hadds.fault _ hbuild
      exact ⟨n, markup, rfl, hlong, Nat.le_max_right ..⟩
    | @walk nodes n hwalks hrefused =>
      obtain ⟨t, ht, hn⟩ := List.exists_of_findSome?_eq_some hrefused
      have hread := (isRoot_bodyOf nodes).readStrings_subset ((resolvesOwn _ _).content ht)
      exact ⟨n, t, rfl, Reference.holdsLong_of_refusal? hn, hadds.short _ hwalks.tree t hread⟩
  obtain ⟨n, t, hfault, hlong, hle⟩ := hsource
  have hroom := hlong.length_le
  obtain ⟨-, -, -, -, -, -, hmore⟩ := hlong
  exact ⟨n, hfault, hmore, by omega⟩

/-- Whatever the parser and the other settings, a conversion ends in a fault exactly when the tree
builder of its parser does or a numeral is refused in the walk. Where the parser adds nothing to the
markup, as the default one never does, markup with fewer than 4303 characters, an ampersand, a
number sign and one digit more than are read, is always converted. -/
theorem ofHtml_returns_unless_refused (env : Environment) (settings : Option ConvertSettings)
    (markup : Text) :
    (∀ fault, (ofHtml env settings markup).outcome = .error fault ↔
      Refuses env settings markup fault) ∧
    AddsNothing env defaultParser markup ∧
    (AddsNothing env (ConvertSettings.inUse env settings).parser markup →
      (∃ t, (ofHtml env settings markup).outcome = .ok t) ∨ digitLimit + 3 ≤ markup.length) := by
  refine ⟨ofHtml_eq_error_iff env settings markup, addsNothing_default env markup, fun hadds => ?_⟩
  cases hend : (ofHtml env settings markup).outcome with
  | ok t => exact .inl ⟨t, rfl⟩
  | error fault =>
    obtain ⟨n, -, hmore, hroom⟩ :=
      ((ofHtml_eq_error_iff ..).mp hend).exists_longNumeral hadds
    exact .inr (by omega)

/-- A paragraph with a reference in its string. -/
def referringParagraph : List Node :=
  [.element "p".toList [] [.text .plain "&#65;".toList]]

/-- Surroundings with a second parser, which reads that paragraph. -/
def secondParser : Environment where
  otherBuilder := fun parser =>
    if parser = "lxml".toList then some fun _ => .ok referringParagraph else none

theorem ofHtml_returns_unless_refused_secondParser :
    AddsNothing secondParser "lxml".toList "<p>&amp;#65;".toList ∧
      ∃ t, (ofHtml secondParser (some ⟨"lxml".toList, 9⟩) "<p>&amp;#65;".toList).outcome =
        .ok t := by
  have htree : secondParser.treeOf "lxml".toList "<p>&amp;#65;".toList =
      .ok (some referringParagraph) := rfl
  have hadds : AddsNothing secondParser "lxml".toList "<p>&amp;#65;".toList := by
    constructor
    · intro fault hfault
      cases htree.symm.trans hfault
    · intro nodes hnodes
      obtain rfl := Option.some.inj (Except.ok.inj (htree.symm.trans hnodes))
      exact List.forall_mem_singleton.mpr (by decide)
  obtain ⟨-, -, hreturns⟩ := ofHtml_returns_unless_refused secondParser
    (some ⟨"lxml".toList, 9⟩) "<p>&amp;#65;".toList
  exact ⟨hadds, (hreturns hadds).resolve_right (by decide)⟩

/-- Digits up to a semicolon are read as a decimal reference. -/
theorem numericReference?_decimal {digits : Text} (hdigits : ∀ c ∈ digits, c.isDigit = true)
    (hfilled : digits ≠ []) (behind : Text) :
    Token.numericReference? (digits ++ ';' :: behind) = some (false, digits, behind) := by
  have htaken : (digits ++ ';' :: behind).takeWhile Char.isDigit = digits := by
    rw [List.takeWhile_append_of_pos hdigits, List.takeWhile_cons_of_neg (by decide),
      List.append_nil]
  have hleft : (digits ++ ';' :: behind).dropWhile Char.isDigit = ';' :: behind := by
    rw [List.dropWhile_append_of_pos hdigits, List.dropWhile_cons_of_neg (by decide)]
  obtain ⟨c, others, rfl⟩ := List.exists_cons_of_ne_nil hfilled
  have hc : ¬ (c = 'x' ∨ c = 'X') := by
    rintro (rfl | rfl) <;> exact absurd (hdigits _ List.mem_cons_self) (by decide)
  rw [List.cons_append] at htaken hleft ⊢
  simp only [Token.numericReference?, Bool.or_eq_true, decide_eq_true_eq, if_neg hc, htaken, hleft]
  rfl

/-- Markup that begins with a complete decimal reference with too many digits is refused, whatever
stands behind it. -/
theorem parse_longReference (stray : Nat → Char) {digits : Text}
    (hdigits : ∀ c ∈ digits, c.isDigit = true) (hlong : digitLimit < digits.length)
    (behind : Text) :
    parse stray ('&' :: '#' :: (digits ++ ';' :: behind)) =
      .error (.longNumeral ⟨digits.length⟩) := by
  have hfilled : digits ≠ [] := List.ne_nil_of_length_pos (by omega)
  have hmove : Token.move stray false none ('&' :: '#' :: (digits ++ ';' :: behind)) =
      .error (.longNumeral ⟨digits.length⟩) := by
    have hdata : Token.dataBefore none ('&' :: '#' :: (digits ++ ';' :: behind)) = some [] := rfl
    have hdecimal : decimal digits = .error ⟨digits.length⟩ := if_pos hlong
    simp only [Token.move, hdata, Token.readReference,
      numericReference?_decimal hdigits hfilled, hdecimal]
  rw [parse, Token.scan, Token.pass, hmove]
  rfl

/-- A decimal reference with one digit more than are read. -/
def longReference : Text := '&' :: '#' :: (List.replicate (digitLimit + 1) '1' ++ [';'])

/-- It is refused with the default parser. -/
theorem refuses_longReference {env : Environment} {settings : Option ConvertSettings}
    (hparser : (ConvertSettings.inUse env settings).parser = defaultParser) :
    Refuses env settings longReference (.longNumeral ⟨4301⟩) := by
  have hdigits : ∀ c ∈ List.replicate (digitLimit + 1) '1', c.isDigit = true := by
    intro c hc
    rw [List.eq_of_mem_replicate hc]
    decide
  have hcount : (List.replicate (digitLimit + 1) '1').length = digitLimit + 1 :=
    List.length_replicate
  have hparse := parse_longReference env.stray hdigits (by omega) []
  rw [hcount] at hparse
  have hfilled : isAllBlank longReference = false := by
    simp [longReference, isAllBlank, show isBlank '&' = false by decide]
  refine .build hfilled ?_
  rw [hparser]
  exact Environment.treeOf_eq_error_iff.mpr
    ⟨by simp, _, rfl, Environment.build_eq_error_iff.mpr ⟨_, hparse, rfl⟩⟩

/-- No text is returned for it. -/
theorem ofHtml_longReference :
    (ofHtml {} none longReference).outcome = .error (.longNumeral ⟨4301⟩) :=
  (ofHtml_eq_error_iff ..).mpr (refuses_longReference rfl)

end PageMarkdown.Markdown
