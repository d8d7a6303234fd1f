import PageMarkdown.Proofs.Html.RawText
import PageMarkdown.Proofs.Html.Tree

/-!
# Built trees

In a built tree a script or a style sheet holds strings of its own kind and
nothing else: no element, and no string that belongs to a text around it. While
tokens are taken, only the innermost open element may be raw, and it is the one
that the reader is inside of. The names of a built tree are in lower case.
-/

namespace PageMarkdown.Html

open Text

variable {stray : Nat → Char}

/-! ## Nodes -/

/-- The kinds of the text of scripts and style sheets. -/
def StringKind.isScript : StringKind → Bool
  | script | stylesheet => true
  | _ => false

/-- The text of a script belongs to no text around it. -/
theorem StringKind.isInnerText_of_isScript {kind : StringKind} (h : kind.isScript = true) :
    kind.isInnerText = false := by
  cases kind <;> first | rfl | cases h

namespace Node

/-- A string that belongs to no text around it. -/
def isHiddenString : Node → Bool
  | .text kind _ => !kind.isInnerText
  | .element _ _ _ => false

/-- An element as it is built: its name is in lower case, and if it is raw it holds only strings of
its own kind. -/
def IsBuilt : Node → Prop
  | .text _ _ => True
  | .element name _ kids =>
    (∃ written, name = lower written) ∧
      (Token.isRaw name = true → ∀ kid ∈ kids, kid.isHiddenString = true)

/-- All nodes of a list of trees are as they are built. -/
def AllBuilt (nodes : List Node) : Prop := ∀ node ∈ preorderAll nodes, node.IsBuilt

theorem allBuilt_nil : AllBuilt [] := by simp [AllBuilt, preorderAll]

theorem allBuilt_cons (node : Node) (others : List Node) :
    AllBuilt (node :: others) ↔ AllBuilt [node] ∧ AllBuilt others :=
  forall_preorderAll_cons node others

theorem allBuilt_text (kind : StringKind) (content : Text) : AllBuilt [.text kind content] :=
  (forall_preorderAll_text ..).mpr ⟨trivial, allBuilt_nil⟩

theorem IsRoot.allBuilt {nodes root : List Node} (hroot : IsRoot nodes root)
    (h : AllBuilt nodes) : AllBuilt root :=
  fun node hnode => h node (hroot.preorderAll_subset hnode)

theorem allBuilt_reverse (nodes : List Node) : AllBuilt nodes.reverse ↔ AllBuilt nodes :=
  forall_preorderAll_reverse nodes

end Node

namespace Tree

open Token

/-! ## States -/

/-- A frame as it is built up: its name is in lower case, and its children so far are built. -/
structure Frame.IsBuilt (frame : Frame) : Prop where
  /-- The name. -/
  lowered : ∃ written, frame.name = lower written
  /-- The children. -/
  kids : Node.AllBuilt frame.reversed

/-- The open elements while the reader is inside a raw element, or outside of all: only the
innermost one may be raw, and it is the one that the reader is inside of. -/
def FramesFit : Option Text → List Frame → Prop
  | none, frames => ∀ frame ∈ frames, isRaw frame.name = false
  | some _, [] => False
  | some element, frame :: outer =>
    frame.name = element ∧ isRaw element = true ∧
      (∀ kid ∈ frame.reversed, kid.isHiddenString = true) ∧
      ∀ frame ∈ outer, isRaw frame.name = false

namespace State

/-- What holds of a tree in the making while the reader is inside a raw element, or outside of all
of them. -/
structure Fits (raw : Option Text) (s : State) : Prop where
  /-- Open elements are built so far. -/
  within : ∀ frame ∈ s.frames, frame.IsBuilt
  /-- Finished nodes are built. -/
  finished : Node.AllBuilt s.reversed
  /-- The innermost open element is the raw one. -/
  frames : FramesFit raw s.frames
  /-- Only void elements are paid for. -/
  paid : ∀ name ∈ s.paid, isVoid name = true

variable {raw : Option Text} {s : State}

/-- A node may be added; inside a raw element it must be a string that belongs to no text around. -/
theorem Fits.add (h : s.Fits raw) {node : Node} (hnode : Node.AllBuilt [node])
    (hhidden : raw ≠ none → node.isHiddenString = true) : (s.add node).Fits raw := by
  obtain ⟨hwithin, hfinished, hframes, hpaid⟩ := h
  unfold State.add
  split
  · rename_i hnone
    exact ⟨hwithin, (Node.allBuilt_cons ..).mpr ⟨hnode, hfinished⟩, hframes, hpaid⟩
  · rename_i frame outer hsome
    rw [hsome] at hwithin hframes
    obtain ⟨hframe, houter⟩ := List.forall_mem_cons.mp hwithin
    have hgrown := (Node.allBuilt_cons ..).mpr ⟨hnode, hframe.kids⟩
    refine ⟨List.forall_mem_cons.mpr ⟨⟨hframe.lowered, hgrown⟩, houter⟩, hfinished, ?_, hpaid⟩
    cases raw with
    | none => exact List.forall_mem_cons.mpr (List.forall_mem_cons.mp hframes)
    | some element =>
      obtain ⟨hname, hraw, hkids, houter⟩ := hframes
      exact ⟨hname, hraw, List.forall_mem_cons.mpr ⟨hhidden (by simp), hkids⟩, houter⟩

/-- Inside a raw element it is the innermost open one. -/
theorem Fits.exists_frame {element : Text} (h : s.Fits (some element)) :
    ∃ frame outer, s.frames = frame :: outer ∧ frame.name = element ∧ isRaw element = true := by
  have hframes := h.frames
  cases hs : s.frames with
  | nil =>
    rw [hs] at hframes
    exact hframes.elim
  | cons frame outer =>
    rw [hs] at hframes
    exact ⟨frame, outer, rfl, hframes.1, hframes.2.1⟩

/-- Data is the text of a script exactly inside raw text. -/
theorem Fits.isScript_dataKind (h : s.Fits raw) : s.dataKind.isScript = raw.isSome := by
  cases raw with
  | some element =>
    obtain ⟨frame, outer, hs, hname, hraw⟩ := h.exists_frame
    simp only [isRaw, Bool.or_eq_true, decide_eq_true_eq] at hraw
    rw [State.dataKind, hs]
    rcases hraw with rfl | rfl
    · simp only [List.findSome?_cons, hname]
      rfl
    · simp only [List.findSome?_cons, hname]
      rfl
  | none =>
    have hplain : ∀ frame ∈ s.frames, isRaw frame.name = false := h.frames
    unfold State.dataKind
    dsimp only
    generalize hfound : s.frames.findSome? _ = found
    cases found with
    | none => rfl
    | some kind =>
      obtain ⟨frame, hframe, hkind⟩ := List.exists_of_findSome?_eq_some hfound
      have hname := hplain frame hframe
      simp only [isRaw, Bool.or_eq_false_iff, decide_eq_false_iff_not] at hname
      rw [if_neg hname.1, if_neg hname.2] at hkind
      split_ifs at hkind <;> obtain rfl := Option.some.inj hkind <;> rfl

theorem Fits.flush (h : s.Fits raw) : s.flush.Fits raw := by
  unfold State.flush
  split
  · exact h
  · have hemptied : Fits raw { s with pending := [] } :=
      ⟨h.within, h.finished, h.frames, h.paid⟩
    refine hemptied.add (Node.allBuilt_text _ _) fun hraw => ?_
    have hscript := h.isScript_dataKind.trans (Option.isSome_iff_ne_none.mpr hraw)
    rw [Node.isHiddenString, StringKind.isInnerText_of_isScript hscript]
    rfl

theorem Fits.special (h : s.Fits none) (kind : StringKind) (t : Text) :
    (s.special kind t).Fits none :=
  h.flush.add (Node.allBuilt_text _ _) fun hraw => absurd rfl hraw

/-- Closing the innermost open element leaves raw text. -/
theorem Fits.pop (h : s.Fits raw) : s.pop.Fits none := by
  obtain ⟨hwithin, hfinished, hframes, hpaid⟩ := h
  unfold State.pop
  split
  · rename_i hnone
    rw [hnone] at hframes
    cases raw with
    | none => exact ⟨hwithin, hfinished, hnone ▸ hframes, hpaid⟩
    | some element => exact hframes.elim
  · rename_i frame outer hsome
    rw [hsome] at hwithin hframes
    obtain ⟨hframe, houter⟩ := List.forall_mem_cons.mp hwithin
    have hsplit : (isRaw frame.name = true → ∀ kid ∈ frame.reversed, kid.isHiddenString = true) ∧
        ∀ frame ∈ outer, isRaw frame.name = false := by
      cases raw with
      | none =>
        obtain ⟨hplain, houter⟩ := List.forall_mem_cons.mp hframes
        exact ⟨fun hraw => absurd (hplain.symm.trans hraw) (by decide), houter⟩
      | some element => exact ⟨fun _ => hframes.2.2.1, hframes.2.2.2⟩
    have hleft : Fits none { s with frames := outer } := ⟨houter, hfinished, hsplit.2, hpaid⟩
    refine hleft.add ?_ fun hraw => absurd rfl hraw
    refine (Node.forall_preorderAll_element ..).mpr ⟨⟨hframe.lowered, ?_⟩, ?_, Node.allBuilt_nil⟩
    · simpa only [List.mem_reverse] using hsplit.1
    · exact (Node.allBuilt_reverse _).mpr hframe.kids

/-- Inside a raw element its own end tag closes it and nothing else. -/
theorem close_raw {name : Text} (h : s.Fits (some name)) : s.close name = s.flush.pop := by
  obtain ⟨frame, outer, hs, hname, -⟩ := h.flush.exists_frame
  simp [State.close, hs, hname, State.popThrough]

theorem Fits.close {name : Text} (h : s.Fits raw) (hraw : raw = none ∨ raw = some name) :
    (s.close name).Fits none := by
  rcases hraw with rfl | rfl
  · exact close_keeps (Fits none) Fits.flush Fits.pop h name
  · rw [close_raw h]
    exact h.flush.pop

/-- An element that is opened is the raw one when it is raw. -/
theorem Fits.openElement (h : s.Fits none) {name : Text} (hname : ∃ written, name = lower written)
    (attributes : List (Text × Text)) :
    (s.openElement name attributes).Fits (if isRaw name then some name else none) := by
  obtain ⟨hwithin, hfinished, hframes, hpaid⟩ := h.flush
  refine ⟨List.forall_mem_cons.mpr ⟨⟨hname, Node.allBuilt_nil⟩, hwithin⟩, hfinished, ?_, hpaid⟩
  split
  · rename_i hraw
    exact ⟨rfl, hraw, by simp, hframes⟩
  · rename_i hplain
    exact List.forall_mem_cons.mpr ⟨by simpa using hplain, hframes⟩

/-- No raw element is void. -/
theorem isVoid_of_isRaw {name : Text} (h : isRaw name = true) : isVoid name = false := by
  simp only [isRaw, Bool.or_eq_true, decide_eq_true_eq] at h
  rcases h with rfl | rfl <;> decide

/-- A start tag outside of raw text opens an element, and closes it when it is void or closed at
once. -/
theorem Fits.opening (h : s.Fits none) {name : Text} (hname : ∃ written, name = lower written)
    (attributes : List (Text × Text)) (closed : Bool) :
    (s.step (.opening name attributes closed)).Fits
      (if isRaw name && !closed then some name else none) := by
  have hopened := h.openElement hname attributes
  cases closed with
  | true =>
    rw [Bool.not_true, Bool.and_false, if_neg Bool.false_ne_true]
    exact hopened.close (by split <;> simp)
  | false =>
    rw [Bool.not_false, Bool.and_true, State.step]
    by_cases hvoid : isVoid name = true
    · have hplain : isRaw name = false := by
        by_contra hraw
        rw [isVoid_of_isRaw (by simpa using hraw)] at hvoid
        cases hvoid
      simp only [hplain, Bool.false_eq_true, if_false] at hopened ⊢
      simp only [hvoid, if_true]
      obtain ⟨hwithin, hfinished, hframes, -⟩ :=
        hopened.close (.inl rfl : none = none ∨ _ = some name)
      exact ⟨hwithin, hfinished, hframes, List.forall_mem_cons.mpr ⟨hvoid, h.flush.paid⟩⟩
    · simp only [hvoid]
      exact hopened

/-- An end tag that is not paid for closes an element; that of a raw element never is. -/
theorem Fits.closing (h : s.Fits raw) {name : Text} (hraw : raw = none ∨ raw = some name) :
    (s.step (.closing name)).Fits none := by
  rw [State.step, State.endTag]
  split
  · rename_i hpaid
    have hvoid := h.paid name (List.contains_iff_mem.mp hpaid)
    rcases hraw with rfl | rfl
    · exact ⟨h.within, h.finished, h.frames,
        fun other hother => h.paid _ (List.mem_of_mem_erase hother)⟩
    · obtain ⟨-, -, -, -, hraw⟩ := h.exists_frame
      rw [isVoid_of_isRaw hraw] at hvoid
      cases hvoid
  · exact h.close hraw

/-- A token takes the tree where it takes the reader. -/
theorem Fits.step {token : Token} {behind : Option Text} (h : s.Fits raw)
    (htoken : rawBehind raw token = some behind) (hsound : token.IsSound) :
    (s.step token).Fits behind := by
  cases raw with
  | none =>
    cases token <;> obtain rfl := Option.some.inj htoken
    case data t => exact ⟨h.within, h.finished, h.frames, h.paid⟩
    case opening name attributes closed =>
      exact h.opening ⟨name, hsound.1.lowered.symm⟩ attributes closed
    case closing name => exact h.closing (.inl rfl)
    case comment t => exact h.special .comment t
    case doctype t => exact h.special .doctype t
    case instruction t => exact h.special .instruction t
    case marked t =>
      rw [State.step]
      split
      · exact h.special .cdata _
      · exact h.special .declaration _
  | some element =>
    cases token with
    | data t =>
      obtain rfl := Option.some.inj htoken
      exact ⟨h.within, h.finished, h.frames, h.paid⟩
    | closing name =>
      obtain ⟨rfl, hbehind⟩ := Option.ite_none_right_eq_some.mp htoken
      obtain rfl := Option.some.inj hbehind
      exact h.closing (.inr rfl)
    | _ => simp [rawBehind] at htoken

theorem Fits.steps {tokens : List Token} {behind : Option Text} (h : s.Fits raw)
    (htokens : Leads raw tokens behind) : (tokens.foldl State.step s).Fits behind := by
  obtain ⟨hfollow, hsound⟩ := htokens
  induction tokens generalizing raw s with
  | nil =>
    obtain rfl := Option.some.inj hfollow
    exact h
  | cons token tokens ih =>
    obtain ⟨htoken, hsound⟩ := List.forall_mem_cons.mp hsound
    rw [List.foldlM_cons, Option.bind_eq_bind, Option.bind_eq_some_iff] at hfollow
    obtain ⟨middle, hmiddle, hfollow⟩ := hfollow
    exact ih (h.step hmiddle htoken) hfollow hsound

theorem Fits.finish (h : s.Fits raw) : Node.AllBuilt s.finish := by
  obtain ⟨closed, ⟨_, hclosed⟩, hfinish⟩ := exists_finish (fun s => ∃ raw, s.Fits raw)
    (fun ⟨raw, h⟩ => ⟨raw, h.flush⟩) (fun ⟨_, h⟩ => ⟨none, h.pop⟩) ⟨raw, h⟩
  exact hfinish ▸ (Node.allBuilt_reverse _).mpr hclosed.finished

end State

end Tree

/-- In the tree of a markup text names are in lower case, and raw elements hold only strings of
their own kind. -/
theorem parse_allBuilt {markup : Text} {nodes : List Node} (h : parse stray markup = .ok nodes) :
    Node.AllBuilt nodes := by
  rw [parse] at h
  cases hscan : Token.scan stray markup with
  | error e =>
    rw [hscan] at h
    cases h
  | ok tokens =>
    rw [hscan] at h
    obtain rfl := Except.ok.inj h
    obtain ⟨behind, htokens⟩ := Token.scan_leads stray markup tokens hscan
    have hstart : Tree.State.Fits none ⟨[], [], [], []⟩ :=
      ⟨by simp, Node.allBuilt_nil, by simp [Tree.FramesFit], by simp⟩
    exact (hstart.steps htokens).finish

end PageMarkdown.Html
