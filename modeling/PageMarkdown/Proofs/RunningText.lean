import PageMarkdown.Proofs.Html.Node
import PageMarkdown.Proofs.Letters

/-!
# Running text keeps its letters

Outside tables, images, hidden contents and links with a target, a document that
is not cut keeps its letters, in their order. Breaks and rules are void: what
stands inside them is not text of the document, except below code, whose text is
taken as it is.
-/

namespace PageMarkdown.Markdown

open Text Html

/-! ## Documents of running text -/

/-- The node may stand in a list: an item, or a string that is not read or blank. -/
def isItemOrBlank : Node → Bool
  | .text kind content => kind = .comment || isAllBlank content
  | .element name _ _ => lower name = "li".toList

/-- The node is running text: a comment, a plain string without ampersands, or an element that shows
its content and nothing else. A list has only items and blank strings as children. -/
def isProse : Node → Bool
  | .text kind content => kind = .comment || (kind = .plain && !content.contains '&')
  | .element name attributes kids =>
    match Role.ofName name with
    | .image | .table | .hidden => false
    | .link => isAllBlank (attributes.text "href")
    | .list _ => kids.all isItemOrBlank
    | _ => true

mutual

/-- The tree without the contents of breaks and rules. Code is left as it is. -/
def emptyVoid : Node → Node
  | .text kind content => .text kind content
  | .element name attributes kids =>
    .element name attributes <|
      match Role.ofName name with
      | .lineBreak | .rule => []
      | .code | .preformatted => kids
      | _ => emptyVoids kids

/-- The trees without the contents of breaks and rules. -/
def emptyVoids : List Node → List Node
  | [] => []
  | node :: others => emptyVoid node :: emptyVoids others

end

theorem Role.ofName_item {name : Text} (h : lower name = "li".toList) :
    Role.ofName name = .transparent := by
  rw [Role.ofName, h]
  decide

/-! ## Results that tell a text -/

namespace Marked

/-- The result is no fault, and unless something was cut it has the letters of a text. -/
structure Tells (m : Marked Text) (t : Text) : Prop where
  /-- No string was refused. -/
  sound : m.marks.any Mark.isFault = false
  /-- Without a cut the letters are those of the text. -/
  letters_eq : m.marks.any Mark.isCut = false → letters m.value = letters t

theorem tells_clear {s t : Text} (h : letters s = letters t) : (clear s).Tells t :=
  ⟨rfl, fun _ => h⟩

/-- A cut element tells anything. -/
theorem tells_cut (name t : Text) : Tells ⟨[], [.cut name]⟩ t :=
  ⟨rfl, fun h => by simp [Mark.isCut] at h⟩

/-- Results one after another tell their texts one after another. -/
theorem Tells.append {m n : Marked Text} {s t : Text} (hm : m.Tells s) (hn : n.Tells t) :
    (m ++ n).Tells (s ++ t) := by
  constructor
  · rw [marks_append, List.any_append, hm.sound, hn.sound, Bool.or_false]
  · intro hcut
    rw [marks_append, List.any_append, Bool.or_eq_false_iff] at hcut
    rw [value_append, letters_append, letters_append, hm.letters_eq hcut.1, hn.letters_eq hcut.2]

/-- What keeps letters keeps what is told. -/
theorem Tells.map {m : Marked Text} {t : Text} {f : Text → Text} (h : m.Tells t)
    (hf : ∀ s, letters (f s) = letters s) : (m.map f).Tells t :=
  ⟨h.sound, fun hcut => (hf m.value).trans (h.letters_eq hcut)⟩

end Marked

/-! ## Strings -/

theorem stringMarkdown_tells {t : Text} (h : '&' ∉ t) : (stringMarkdown t).Tells t := by
  rw [stringMarkdown_plain h]
  exact Marked.tells_clear (letters_squeeze t)

/-- A string of running text tells itself, and a comment nothing. -/
theorem walk_text_tells {kind : StringKind} {content : Text} (h : isProse (.text kind content))
    (room depth : Nat) :
    (walk room depth (.text kind content)).Tells (if kind.isInnerText then content else []) := by
  simp only [isProse, Bool.or_eq_true, Bool.and_eq_true, decide_eq_true_eq, Bool.not_eq_true',
    List.contains_eq_mem, decide_eq_false_iff_not] at h
  rw [walk]
  rcases h with rfl | ⟨rfl, hplain⟩
  · exact Marked.tells_clear rfl
  · exact stringMarkdown_tells hplain

/-! ## Elements -/

/-- The items of a list, told one after another. -/
def itemsTold (room depth : Nat) (nodes : List Node) : Marked Text :=
  (walkItems room depth nodes).map List.flatten

/-- What the induction on the tree carries: at any room and depth, the nodes tell their text, and so
do the items among them when all of them may stand in a list. -/
structure TellsText (nodes : List Node) : Prop where
  /-- As running text. -/
  walked (room depth : Nat) : (walkAll room depth nodes).Tells (Node.innerText (emptyVoids nodes))
  /-- As the children of a list. -/
  listed (room depth : Nat) (h : nodes.all isItemOrBlank) :
    (itemsTold room depth nodes).Tells (Node.innerText (emptyVoids nodes))

/-- The children of an element that its text comes from. -/
def voidedKids (name : Text) (kids : List Node) : List Node :=
  match Role.ofName name with
  | .lineBreak | .rule => []
  | .code | .preformatted => kids
  | _ => emptyVoids kids

/-- An element of running text is shown by a text that has the letters of its children, by its
children in a frame without letters, or by the items among its children. -/
theorem shown_of_prose {name : Text} {attributes : Attributes} {kids : List Node}
    (h : isProse (.element name attributes kids)) :
    (∃ t, shown name attributes kids = .fixed t ∧
      letters t = letters (Node.innerText (voidedKids name kids))) ∨
    (∃ frame, shown name attributes kids = .content frame ∧
      voidedKids name kids = emptyVoids kids ∧ ∀ t, letters (frame t) = letters t) ∨
    (∃ ordered, shown name attributes kids = .items ordered ∧
      voidedKids name kids = emptyVoids kids ∧ kids.all isItemOrBlank) := by
  have htarget : hasTarget (.element name attributes kids) = false := by
    rw [isProse] at h
    rw [hasTarget]
    cases hrole : Role.ofName name <;> simp_all
  have hframe : ∀ frame, shown name attributes kids = .content frame →
      ∀ t, letters (frame t) = letters t := fun _ hshown => letters_frame hshown htarget
  simp only [isProse] at h
  rw [shown, voidedKids] at *
  cases hrole : Role.ofName name with
  | lineBreak => exact .inl ⟨_, rfl, rfl⟩
  | rule => exact .inl ⟨_, rfl, rfl⟩
  | code => exact .inl ⟨_, rfl, letters_codeMarkdown _⟩
  | preformatted => exact .inl ⟨_, rfl, letters_preformattedMarkdown _⟩
  | list ordered =>
    rw [hrole] at h
    exact .inr (.inr ⟨ordered, rfl, rfl, h⟩)
  | image => simp [hrole] at h
  | table => simp [hrole] at h
  | hidden => simp [hrole] at h
  | _ =>
    rw [hrole] at hframe
    exact .inr (.inl ⟨_, rfl, rfl, hframe _ rfl⟩)

/-- An element of running text tells the text of its children. -/
theorem walk_element_tells {name : Text} {attributes : Attributes} {kids : List Node}
    (h : isProse (.element name attributes kids)) (hkids : TellsText kids) (room depth : Nat) :
    (walk room depth (.element name attributes kids)).Tells
      (Node.innerText (voidedKids name kids)) := by
  cases room with
  | zero =>
    rw [walk_element_zero]
    exact Marked.tells_cut name _
  | succ room =>
    rw [walk_element_succ]
    rcases shown_of_prose h with ⟨t, hshown, ht⟩ | ⟨frame, hshown, hvoided, hframe⟩ |
      ⟨ordered, hshown, hvoided, hitems⟩
    · rw [hshown]
      exact Marked.tells_clear ht
    · rw [hshown, hvoided]
      exact (hkids.walked room depth).map hframe
    · rw [hshown, hvoided]
      have hlisted := hkids.listed room depth hitems
      exact ⟨hlisted.sound, fun hcut =>
        (letters_renderList ordered depth _).trans (hlisted.letters_eq hcut)⟩

/-! ## Trees -/

/-- One more item is told before the others. -/
theorem itemsTold_item {name : Text} {attributes : Attributes} {kids others : List Node}
    (hname : lower name = "li".toList) (hkids : TellsText kids) (hothers : TellsText others)
    (room depth : Nat) (h : others.all isItemOrBlank) :
    (itemsTold room depth (.element name attributes kids :: others)).Tells
      (Node.innerText (emptyVoids kids) ++ Node.innerText (emptyVoids others)) := by
  have hitem : itemsTold room depth (.element name attributes kids :: others) =
      ((walkAll room (depth + 1) kids).map fun t =>
        (if isAllBlank t then [] else [trim t]).flatten) ++ itemsTold room depth others := by
    rw [itemsTold, itemsTold, walkItems, if_pos hname]
    exact congrArg (Marked.mk · _) List.flatten_append
  rw [hitem]
  exact ((hkids.walked room (depth + 1)).map letters_item).append (hothers.listed room depth h)

namespace TellsText

theorem nil : TellsText [] := by
  constructor
  · intro room depth
    rw [walkAll]
    exact Marked.tells_clear rfl
  · intro room depth _
    rw [itemsTold, walkItems]
    exact Marked.tells_clear rfl

/-- A string tells itself in running text; between items it has no letters. -/
theorem text {kind : StringKind} {content : Text} {others : List Node}
    (h : isProse (.text kind content)) (hothers : TellsText others) :
    TellsText (.text kind content :: others) := by
  constructor
  · intro room depth
    rw [emptyVoids, emptyVoid, Node.innerText_text, walkAll]
    exact (walk_text_tells h room depth).append (hothers.walked room depth)
  · intro room depth hitems
    obtain ⟨hblank, hitems⟩ := Bool.and_eq_true_iff.mp hitems
    have hnone : letters (if kind.isInnerText then content else []) = [] := by
      rcases Bool.or_eq_true_iff.mp hblank with hcomment | hblank
      · rw [of_decide_eq_true hcomment]
        rfl
      · split
        · exact letters_of_isAllBlank hblank
        · rfl
    have htold := hothers.listed room depth hitems
    refine ⟨htold.sound, fun hcut => (htold.letters_eq hcut).trans ?_⟩
    rw [emptyVoids, emptyVoid, Node.innerText_text, letters_append, hnone, List.nil_append]

/-- An element tells the text of its children, also as an item of a list. -/
theorem element {name : Text} {attributes : Attributes} {kids others : List Node}
    (h : isProse (.element name attributes kids)) (hkids : TellsText kids)
    (hothers : TellsText others) : TellsText (.element name attributes kids :: others) := by
  have hvoid : emptyVoids (.element name attributes kids :: others) =
      .element name attributes (voidedKids name kids) :: emptyVoids others := by
    rw [emptyVoids, emptyVoid, voidedKids]
  constructor
  · intro room depth
    rw [hvoid, Node.innerText_element, walkAll]
    exact (walk_element_tells h hkids room depth).append (hothers.walked room depth)
  · intro room depth hitems
    obtain ⟨hitem, hitems⟩ := Bool.and_eq_true_iff.mp hitems
    have hname : lower name = "li".toList := of_decide_eq_true hitem
    have hvoided : voidedKids name kids = emptyVoids kids := by
      rw [voidedKids, Role.ofName_item hname]
    rw [hvoid, Node.innerText_element, hvoided]
    exact itemsTold_item hname hkids hothers room depth hitems

end TellsText

/-- Running text tells its text, at every room and in lists of every depth. -/
theorem tellsText_of_prose (nodes : List Node)
    (h : ∀ node ∈ Node.preorderAll nodes, isProse node) : TellsText nodes := by
  induction nodes using Node.forest_induction with
  | nil => exact .nil
  | text kind content others ih =>
    rw [Node.forall_preorderAll_text] at h
    exact .text h.1 (ih h.2)
  | element name attributes kids others ihKids ih =>
    obtain ⟨hnode, hkids, hothers⟩ := (Node.forall_preorderAll_element ..).mp h
    exact .element hnode (ihKids hkids) (ih hothers)

/-- A document of running text is converted, and when it is not cut its Markdown has the letters of
its text in their order, none lost and none twice. What stands inside a void element is not part of
the text. -/
theorem convertDocument_letters (c : Converter) (nodes : List Node)
    (h : ∀ node ∈ Node.preorderAll nodes, isProse node) :
    ∃ t c', (c.convertDocument nodes).outcome = .ok (t, c') ∧
      (c'.truncated = false → letters t = letters (Node.innerText (emptyVoids nodes))) := by
  have htold := (tellsText_of_prose nodes h).walked c.room 0
  refine ⟨_, _, (c.convertDocument_outcome_iff ..).mpr ⟨htold.sound, rfl, rfl⟩, fun hcut => ?_⟩
  rw [letters_settle]
  exact htold.letters_eq (Bool.or_eq_false_iff.mp hcut).2

/-- A quotation of a list in the item of a list and of preformatted text; a break holds a string. -/
def quotedList : List Node :=
  [.element "blockquote".toList []
    [.element "ul".toList []
      [.element "li".toList []
        [.text .plain "ab".toList, .element "br".toList [] [.text .plain "x".toList],
          .element "ol".toList [] [.element "li".toList [] [.text .plain "cd".toList]]],
        .text .plain " ".toList],
      .element "pre".toList [] [.text .plain "e\n f".toList]]]

theorem convertDocument_letters_quotedList :
    ∃ t c', (Converter.convertDocument ⟨9, false⟩ quotedList).outcome = .ok (t, c') ∧
      c'.truncated = false ∧ letters t = "abcdef".toList := by
  obtain ⟨t, c', hok, hletters⟩ := convertDocument_letters ⟨9, false⟩ quotedList (by decide)
  have huncut : c'.truncated = false := by
    obtain ⟨-, -, rfl⟩ := (Converter.convertDocument_outcome_iff ..).mp hok
    decide
  have htext : letters (Node.innerText (emptyVoids quotedList)) = "abcdef".toList := by decide
  exact ⟨t, c', hok, huncut, (hletters huncut).trans htext⟩

/-- The text of a whole tree, what stands inside breaks included, is not kept: a break does not show
its children. -/
theorem convertDocument_loses_break_content :
    let nodes : List Node := [.element "br".toList [] [.text .plain "x".toList]]
    (∀ node ∈ Node.preorderAll nodes, isProse node) ∧
      (Converter.convertDocument ⟨9, false⟩ nodes).outcome = .ok ([], ⟨9, false⟩) ∧
      letters [] ≠ letters (Node.innerText nodes) := by
  refine ⟨by decide, ?_, by decide⟩
  exact (Converter.convertDocument_outcome_iff ..).mpr ⟨by decide, by decide, by decide⟩

end PageMarkdown.Markdown
