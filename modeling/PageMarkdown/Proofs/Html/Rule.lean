import Mathlib.Tactic.SplitIfs
import PageMarkdown.Proofs.Html.Tree

/-!
# Rules on built trees

Building a tree puts only what tokens bring into it: an element has the name and
the attributes of a start tag, and a string that is no data is the text of a token
or a single blank. So a rule that each token keeps holds of every node.
-/

namespace PageMarkdown.Html

open Text

/-- A rule on nodes that does not look at what elements hold. It leaves data alone, and strings of
one blank. -/
structure Rule where
  /-- What may be the name and the attributes of an element. -/
  element : Text → Attributes → Prop
  /-- What a string may be, by its kind. -/
  string : StringKind → Text → Prop
  /-- Data may be anything. -/
  data : ∀ kind content, kind.isRead = true → string kind content
  /-- A string may be a blank. -/
  blank : ∀ kind, string kind ['\n'] ∧ string kind [' ']

namespace Rule

variable {r : Rule}

/-- A node keeps the rule. -/
def Holds (r : Rule) : Node → Prop
  | .text kind content => r.string kind content
  | .element name attributes _ => r.element name attributes

/-- All nodes below a list keep the rule. -/
def HoldsBelow (r : Rule) (nodes : List Node) : Prop :=
  ∀ node ∈ Node.preorderAll nodes, r.Holds node

/-- What a token brings into a tree keeps the rule. -/
def Allows (r : Rule) : Token → Prop
  | .opening name attributes _ => r.element name (Tree.attributesOf name attributes)
  | .comment t => r.string .comment t
  | .doctype t => r.string .doctype t
  | .instruction t => r.string .instruction t
  | .marked t =>
    if (t.take 6).map Char.toUpper = "CDATA[".toList then r.string .cdata (t.drop 6)
    else r.string .declaration t
  | .data _ => True
  | .closing _ => True

theorem holdsBelow_nil : r.HoldsBelow [] := by simp [HoldsBelow, Node.preorderAll]

theorem holdsBelow_append {nodes others : List Node} (h : r.HoldsBelow nodes)
    (hothers : r.HoldsBelow others) : r.HoldsBelow (nodes ++ others) := by
  rw [HoldsBelow, Node.preorderAll_eq_flatMap, List.flatMap_append, List.forall_mem_append,
    ← Node.preorderAll_eq_flatMap, ← Node.preorderAll_eq_flatMap]
  exact ⟨h, hothers⟩

theorem holdsBelow_text {kind : StringKind} {content : Text} (h : r.string kind content) :
    r.HoldsBelow [.text kind content] :=
  (Node.forall_preorderAll_text ..).mpr ⟨h, holdsBelow_nil⟩

theorem holdsBelow_element {name : Text} {attributes : Attributes} {kids : List Node}
    (h : r.element name attributes) (hkids : r.HoldsBelow kids) :
    r.HoldsBelow [.element name attributes kids] :=
  (Node.forall_preorderAll_element ..).mpr ⟨h, hkids, holdsBelow_nil⟩

end Rule

namespace Tree

/-- A frame of which the element and the children so far keep the rule. -/
structure Frame.Keeps (r : Rule) (frame : Frame) : Prop where
  /-- The element. -/
  element : r.element frame.name frame.attributes
  /-- The children. -/
  kids : r.HoldsBelow frame.reversed

namespace State

/-- A tree in the making that keeps the rule. -/
structure Keeps (r : Rule) (s : State) : Prop where
  /-- Open elements keep it. -/
  within : ∀ frame ∈ s.frames, frame.Keeps r
  /-- Finished nodes keep it. -/
  finished : r.HoldsBelow s.reversed

variable {r : Rule} {s : State}

/-- What settles is as it was or is a blank. -/
theorem string_settle {kind : StringKind} {t : Text} (h : r.string kind t) (s : State) :
    r.string kind (s.settle t) := by
  obtain ⟨hfeed, hspace⟩ := r.blank kind
  unfold settle
  dsimp only
  split
  · split
    · exact hfeed
    · exact hspace
  · exact h

/-- Data is of a kind that is read. -/
theorem isRead_dataKind (s : State) : s.dataKind.isRead = true := by
  unfold dataKind
  dsimp only
  generalize hfound : s.frames.findSome? _ = found
  cases found with
  | none => rfl
  | some kind =>
    obtain ⟨frame, -, hkind⟩ := List.exists_of_findSome?_eq_some hfound
    split_ifs at hkind <;> obtain rfl := Option.some.inj hkind <;> rfl

theorem Keeps.add (h : s.Keeps r) {node : Node} (hnode : r.HoldsBelow [node]) :
    (s.add node).Keeps r := by
  obtain ⟨hwithin, hfinished⟩ := h
  unfold State.add
  split
  · exact ⟨hwithin, (Node.forall_preorderAll_cons ..).mpr ⟨hnode, hfinished⟩⟩
  · rename_i frame outer hframes
    rw [hframes] at hwithin
    obtain ⟨hframe, houter⟩ := List.forall_mem_cons.mp hwithin
    have hgrown := (Node.forall_preorderAll_cons ..).mpr ⟨hnode, hframe.kids⟩
    exact ⟨List.forall_mem_cons.mpr ⟨⟨hframe.element, hgrown⟩, houter⟩, hfinished⟩

theorem Keeps.flush (h : s.Keeps r) : s.flush.Keeps r := by
  unfold State.flush
  split
  · exact h
  · have hemptied : Keeps r { s with pending := [] } := ⟨h.within, h.finished⟩
    exact hemptied.add (Rule.holdsBelow_text (r.data _ _ s.isRead_dataKind))

theorem Keeps.special (h : s.Keeps r) {kind : StringKind} {t : Text} (ht : r.string kind t) :
    (s.special kind t).Keeps r :=
  h.flush.add (Rule.holdsBelow_text (string_settle ht _))

theorem Keeps.pop (h : s.Keeps r) : s.pop.Keeps r := by
  obtain ⟨hwithin, hfinished⟩ := h
  unfold State.pop
  split
  · exact ⟨hwithin, hfinished⟩
  · rename_i frame outer hframes
    rw [hframes] at hwithin
    obtain ⟨hframe, houter⟩ := List.forall_mem_cons.mp hwithin
    have hleft : Keeps r { s with frames := outer } := ⟨houter, hfinished⟩
    have hkids := (Node.forall_preorderAll_reverse ..).mpr hframe.kids
    exact hleft.add (Rule.holdsBelow_element hframe.element hkids)

theorem Keeps.close (h : s.Keeps r) (name : Text) : (s.close name).Keeps r :=
  close_keeps (Keeps r) Keeps.flush Keeps.pop h name

theorem Keeps.openElement (h : s.Keeps r) {name : Text} (attributes : List (Text × Text))
    (hname : r.element name (attributesOf name attributes)) :
    (s.openElement name attributes).Keeps r :=
  ⟨List.forall_mem_cons.mpr ⟨⟨hname, Rule.holdsBelow_nil⟩, h.flush.within⟩, h.flush.finished⟩

/-- What has been paid for does not matter. -/
theorem Keeps.pay (h : s.Keeps r) (paid : List Text) : Keeps r { s with paid := paid } :=
  ⟨h.within, h.finished⟩

/-- A token that keeps the rule leaves a tree that does. -/
theorem Keeps.step (h : s.Keeps r) {token : Token} (htoken : r.Allows token) :
    (s.step token).Keeps r := by
  cases token with
  | data t => exact ⟨h.within, h.finished⟩
  | opening name attributes closed =>
    have hopened := h.openElement attributes htoken
    cases closed with
    | true => exact hopened.close name
    | false =>
      rw [State.step]
      dsimp only
      split
      · exact (hopened.close name).pay _
      · exact hopened
  | closing name =>
    rw [State.step, State.endTag]
    split
    · exact h.pay _
    · exact h.close name
  | comment t => exact h.special htoken
  | doctype t => exact h.special htoken
  | instruction t => exact h.special htoken
  | marked t =>
    rw [Rule.Allows] at htoken
    rw [State.step]
    by_cases hcdata : (t.take 6).map Char.toUpper = "CDATA[".toList
    · rw [if_pos hcdata] at htoken ⊢
      exact h.special htoken
    · rw [if_neg hcdata] at htoken ⊢
      exact h.special htoken

theorem Keeps.steps (h : s.Keeps r) {tokens : List Token}
    (htokens : ∀ token ∈ tokens, r.Allows token) : (tokens.foldl State.step s).Keeps r := by
  induction tokens generalizing s with
  | nil => exact h
  | cons token tokens ih =>
    obtain ⟨htoken, hothers⟩ := List.forall_mem_cons.mp htokens
    exact ih (h.step htoken) hothers

theorem Keeps.finish (h : s.Keeps r) : r.HoldsBelow s.finish := by
  obtain ⟨closed, hclosed, hfinish⟩ := exists_finish (Keeps r) Keeps.flush Keeps.pop h
  exact hfinish ▸ (Node.forall_preorderAll_reverse _).mpr hclosed.finished

end State

/-- A tree keeps any rule that its tokens keep. -/
theorem holdsBelow_ofTokens {r : Rule} {tokens : List Token}
    (h : ∀ token ∈ tokens, r.Allows token) : r.HoldsBelow (ofTokens tokens) := by
  have hstart : State.Keeps r ⟨[], [], [], []⟩ := ⟨by simp, Rule.holdsBelow_nil⟩
  exact (hstart.steps h).finish

end Tree

end PageMarkdown.Html
