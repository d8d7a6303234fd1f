import PageMarkdown.Proofs.Html.Built

/-!
# The text of scripts

In a built tree an element that is a script or a style sheet holds the text of
scripts and style sheets and nothing else, and no other element holds any. Data
takes its kind from the innermost open element that has one, and only the innermost
open element can be raw, so what data becomes is settled by that element alone.
-/

namespace PageMarkdown.Html

open Text

variable {stray : Nat → Char}

namespace Node

/-- The text of a script or a style sheet. -/
def isScriptText : Node → Bool
  | .text kind _ => kind.isScript
  | .element _ _ _ => false

/-- An element holds the text of scripts and nothing else if it is raw, and none of it otherwise. -/
def SortsScripts : Node → Prop
  | .text _ _ => True
  | .element name _ kids => ∀ kid ∈ kids, kid.isScriptText = Token.isRaw name

/-- All elements of a list of trees hold the text of scripts if they are raw, and only then. -/
def AllSorted (nodes : List Node) : Prop := ∀ node ∈ preorderAll nodes, node.SortsScripts

theorem allSorted_nil : AllSorted [] := by simp [AllSorted, preorderAll]

theorem allSorted_cons (node : Node) (others : List Node) :
    AllSorted (node :: others) ↔ AllSorted [node] ∧ AllSorted others :=
  forall_preorderAll_cons node others

theorem allSorted_text (kind : StringKind) (content : Text) : AllSorted [.text kind content] :=
  (forall_preorderAll_text ..).mpr ⟨trivial, allSorted_nil⟩

theorem IsRoot.allSorted {nodes root : List Node} (hroot : IsRoot nodes root)
    (h : AllSorted nodes) : AllSorted root :=
  fun node hnode => h node (hroot.preorderAll_subset hnode)

end Node

namespace Tree

open Token

/-- A frame whose children so far are such as its element may hold. -/
structure Frame.Sorts (frame : Frame) : Prop where
  /-- The children. -/
  kids : ∀ kid ∈ frame.reversed, kid.isScriptText = isRaw frame.name
  /-- What lies below them. -/
  below : Node.AllSorted frame.reversed

namespace State

/-- All that has been built so far holds the text of scripts where it belongs. -/
structure Sorts (s : State) : Prop where
  /-- Open elements. -/
  within : ∀ frame ∈ s.frames, frame.Sorts
  /-- Finished nodes. -/
  finished : Node.AllSorted s.reversed

variable {raw : Option Text} {s : State}

/-- The innermost open element is raw exactly inside raw text. -/
theorem Fits.isRaw_innermost (h : s.Fits raw) {frame : Frame} {outer : List Frame}
    (hframes : s.frames = frame :: outer) : isRaw frame.name = raw.isSome := by
  have hfit := h.frames
  rw [hframes] at hfit
  cases raw with
  | none => exact hfit frame List.mem_cons_self
  | some element =>
    obtain ⟨rfl, hraw, -⟩ := hfit
    exact hraw

/-- A node may be added where it is the text of a script exactly inside raw text. -/
theorem Sorts.add (h : s.Sorts) (hfits : s.Fits raw) {node : Node} (hnode : Node.AllSorted [node])
    (hscript : node.isScriptText = raw.isSome) : (s.add node).Sorts := by
  unfold State.add
  split
  · exact ⟨h.within, (Node.allSorted_cons ..).mpr ⟨hnode, h.finished⟩⟩
  · rename_i frame outer hframes
    obtain ⟨hframe, houter⟩ := List.forall_mem_cons.mp (hframes ▸ h.within)
    have hfirst : node.isScriptText = isRaw frame.name :=
      hscript.trans (hfits.isRaw_innermost hframes).symm
    refine ⟨List.forall_mem_cons.mpr ⟨⟨?_, ?_⟩, houter⟩, h.finished⟩
    · exact List.forall_mem_cons.mpr ⟨hfirst, hframe.kids⟩
    · exact (Node.allSorted_cons ..).mpr ⟨hnode, hframe.below⟩

theorem Sorts.flush (h : s.Sorts) (hfits : s.Fits raw) : s.flush.Sorts := by
  unfold State.flush
  split
  · exact h
  · have hemptied : Sorts { s with pending := [] } := ⟨h.within, h.finished⟩
    have hsame : Fits raw { s with pending := [] } :=
      ⟨hfits.within, hfits.finished, hfits.frames, hfits.paid⟩
    exact hemptied.add hsame (Node.allSorted_text _ _) hfits.isScript_dataKind

theorem Sorts.special (h : s.Sorts) (hfits : s.Fits none) {kind : StringKind}
    (hkind : kind.isScript = false) (t : Text) : (s.special kind t).Sorts :=
  (h.flush hfits).add hfits.flush (Node.allSorted_text _ _) hkind

/-- An element that is closed is no text, and it stands in one that is not raw. -/
theorem Sorts.pop (h : s.Sorts) (hfits : s.Fits raw) : s.pop.Sorts := by
  unfold State.pop
  split
  · exact h
  · rename_i frame outer hframes
    obtain ⟨hframe, houter⟩ := List.forall_mem_cons.mp (hframes ▸ h.within)
    have hleft : Sorts { s with frames := outer } := ⟨houter, h.finished⟩
    have hplain : ∀ frame ∈ outer, isRaw frame.name = false := by
      have hfit := hframes ▸ hfits.frames
      cases raw with
      | none => exact (List.forall_mem_cons.mp hfit).2
      | some element => exact hfit.2.2.2
    have hleftFits : Fits none { s with frames := outer } :=
      ⟨fun f hf => hfits.within f (hframes ▸ List.mem_cons_of_mem _ hf), hfits.finished, hplain,
        hfits.paid⟩
    refine hleft.add hleftFits ?_ rfl
    refine (Node.forall_preorderAll_element ..).mpr ⟨?_, ?_, Node.allSorted_nil⟩
    · exact fun kid hkid => hframe.kids kid (List.mem_reverse.mp hkid)
    · exact (Node.forall_preorderAll_reverse _).mpr hframe.below

theorem Sorts.close {name : Text} (h : s.Sorts) (hfits : s.Fits raw)
    (hraw : raw = none ∨ raw = some name) : (s.close name).Sorts := by
  rcases hraw with rfl | rfl
  · have hboth := close_keeps (fun s => s.Fits none ∧ s.Sorts)
      (fun h => ⟨h.1.flush, h.2.flush h.1⟩) (fun h => ⟨h.1.pop, h.2.pop h.1⟩) ⟨hfits, h⟩ name
    exact hboth.2
  · rw [close_raw hfits]
    exact (h.flush hfits).pop hfits.flush

theorem Sorts.openElement (h : s.Sorts) (hfits : s.Fits none) (name : Text)
    (attributes : List (Text × Text)) : (s.openElement name attributes).Sorts := by
  have hflushed := h.flush hfits
  have hfirst : Frame.Sorts ⟨name, attributesOf name attributes, []⟩ :=
    ⟨by simp, Node.allSorted_nil⟩
  exact ⟨List.forall_mem_cons.mpr ⟨hfirst, hflushed.within⟩, hflushed.finished⟩

/-- A start tag outside of raw text opens an element, and may close it. -/
theorem Sorts.opening (h : s.Sorts) (hfits : s.Fits none) {name : Text}
    (hname : ∃ written, name = lower written) (attributes : List (Text × Text)) (closed : Bool) :
    (s.step (.opening name attributes closed)).Sorts := by
  have hopened := h.openElement hfits name attributes
  have hclosed : ((s.openElement name attributes).close name).Sorts :=
    hopened.close (hfits.openElement hname attributes) (by split <;> simp)
  cases closed with
  | true => exact hclosed
  | false =>
    rw [State.step]
    dsimp only
    split
    · exact ⟨hclosed.within, hclosed.finished⟩
    · exact hopened

/-- A token is put where it belongs. -/
theorem Sorts.step {token : Token} {behind : Option Text} (h : s.Sorts) (hfits : s.Fits raw)
    (htoken : rawBehind raw token = some behind) (hsound : token.IsSound) :
    (s.step token).Sorts := by
  have hclosing : ∀ name, raw = none ∨ raw = some name → (s.step (.closing name)).Sorts := by
    intro name hraw
    rw [State.step, State.endTag]
    split
    · exact ⟨h.within, h.finished⟩
    · exact h.close hfits hraw
  cases raw with
  | none =>
    cases token with
    | data t => exact ⟨h.within, h.finished⟩
    | opening name attributes closed =>
      exact h.opening hfits ⟨name, hsound.1.lowered.symm⟩ attributes closed
    | closing name => exact hclosing name (.inl rfl)
    | comment t => exact h.special hfits rfl t
    | doctype t => exact h.special hfits rfl t
    | instruction t => exact h.special hfits rfl t
    | marked t =>
      rw [State.step]
      split
      · exact h.special hfits rfl _
      · exact h.special hfits rfl _
  | some element =>
    cases token with
    | data t => exact ⟨h.within, h.finished⟩
    | closing name =>
      obtain ⟨rfl, -⟩ := Option.ite_none_right_eq_some.mp htoken
      exact hclosing name (.inr rfl)
    | _ => simp [rawBehind] at htoken

theorem Sorts.steps {tokens : List Token} {behind : Option Text} (h : s.Sorts) (hfits : s.Fits raw)
    (htokens : Leads raw tokens behind) : (tokens.foldl State.step s).Sorts := by
  obtain ⟨hfollow, hsound⟩ := htokens
  induction tokens generalizing raw s with
  | nil => exact h
  | cons token tokens ih =>
    obtain ⟨htoken, hsound⟩ := List.forall_mem_cons.mp hsound
    rw [List.foldlM_cons, Option.bind_eq_bind, Option.bind_eq_some_iff] at hfollow
    obtain ⟨middle, hmiddle, hfollow⟩ := hfollow
    exact ih (h.step hfits hmiddle htoken) (hfits.step hmiddle htoken) hfollow hsound

theorem Sorts.finish (h : s.Sorts) (hfits : s.Fits raw) : Node.AllSorted s.finish := by
  obtain ⟨closed, ⟨-, hclosed⟩, hfinish⟩ := exists_finish (fun s => (∃ raw, s.Fits raw) ∧ s.Sorts)
    (fun ⟨⟨raw, hfits⟩, h⟩ => ⟨⟨raw, hfits.flush⟩, h.flush hfits⟩)
    (fun ⟨⟨_, hfits⟩, h⟩ => ⟨⟨none, hfits.pop⟩, h.pop hfits⟩) ⟨⟨raw, hfits⟩, h⟩
  exact hfinish ▸ (Node.forall_preorderAll_reverse _).mpr hclosed.finished

end State

end Tree

/-- In the tree of a markup text scripts and style sheets hold all text of scripts and style sheets,
and nothing else. -/
theorem parse_allSorted {markup : Text} {nodes : List Node} (h : parse stray markup = .ok nodes) :
    Node.AllSorted nodes := by
  rw [parse] at h
  cases hscan : Token.scan stray markup with
  | error e =>
    rw [hscan] at h
    cases h
  | ok tokens =>
    rw [hscan] at h
    obtain rfl := Except.ok.inj h
    obtain ⟨behind, htokens⟩ := Token.scan_leads stray markup tokens hscan
    have hfits : Tree.State.Fits none ⟨[], [], [], []⟩ :=
      ⟨by simp, Node.allBuilt_nil, by simp [Tree.FramesFit], by simp⟩
    have hstart : Tree.State.Sorts ⟨[], [], [], []⟩ := ⟨by simp, Node.allSorted_nil⟩
    exact (hstart.steps hfits htokens).finish (hfits.steps htokens)

end PageMarkdown.Html
