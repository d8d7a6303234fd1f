import PageMarkdown.Html.Tree
import PageMarkdown.Proofs.Html.Node
import PageMarkdown.Proofs.Html.Token

/-!
# Strings of a built tree

Building a tree only joins data: no string that is read is longer than the data of
all tokens, a string of blanks apart, which may be one character. So no such
string of a document is longer than its markup. Data alone makes one string.
-/

namespace PageMarkdown.Html

open Text

variable (stray : Nat → Char)

namespace Node

/-- All strings below the nodes that are read have at most this length. -/
def AllShort (bound : Nat) (nodes : List Node) : Prop :=
  ∀ t ∈ readStrings nodes, t.length ≤ bound

theorem allShort_nil (bound : Nat) : AllShort bound [] := by
  simp [AllShort, readStrings, preorderAll]

theorem allShort_cons (bound : Nat) (node : Node) (others : List Node) :
    AllShort bound (node :: others) ↔ AllShort bound [node] ∧ AllShort bound others := by
  have happend : readStrings (node :: others) = readStrings [node] ++ readStrings others := by
    simp [readStrings, preorderAll]
  rw [AllShort, happend, List.forall_mem_append]
  rfl

theorem allShort_reverse (bound : Nat) (nodes : List Node) :
    AllShort bound nodes.reverse ↔ AllShort bound nodes := by
  have hflat : ∀ nodes : List Node,
      AllShort bound nodes ↔ ∀ node ∈ nodes, AllShort bound [node] := by
    intro nodes
    induction nodes with
    | nil => simp [allShort_nil]
    | cons node others ih => rw [allShort_cons, List.forall_mem_cons, ih]
  rw [hflat, hflat nodes]
  simp only [List.mem_reverse]

/-- The strings of an element are those of its children. -/
theorem allShort_element {bound : Nat} {kids : List Node} (h : AllShort bound kids) (name : Text)
    (attributes : Attributes) : AllShort bound [.element name attributes kids] := by
  rw [AllShort, readStrings_element, List.forall_mem_append]
  exact ⟨h, allShort_nil bound⟩

theorem allShort_text {bound : Nat} {kind : StringKind} {content : Text}
    (h : kind.isRead = true → content.length ≤ bound) : AllShort bound [.text kind content] := by
  rw [AllShort, readStrings_text, List.forall_mem_append]
  refine ⟨fun t ht => ?_, allShort_nil bound⟩
  split at ht
  · rename_i hread
    exact List.mem_singleton.mp ht ▸ h hread
  · cases ht

end Node

namespace Tree

open Token

/-! ## Closing

Elements are closed one after another, each behind a flush. What closing one of them keeps, closing
any number of them keeps.
-/

namespace State

section Closing

variable (P : State → Prop) {s : State}

theorem popThrough_keeps (hpop : ∀ {s : State}, P s → P s.pop) (h : P s) (name : Text)
    (count : Nat) : P (s.popThrough name count) := by
  induction count generalizing s with
  | zero => exact h
  | succ count ih =>
    rw [State.popThrough]
    split
    · exact h
    · split
      · exact hpop h
      · exact ih (hpop h)

theorem close_keeps (hflush : ∀ {s : State}, P s → P s.flush)
    (hpop : ∀ {s : State}, P s → P s.pop) (h : P s) (name : Text) : P (s.close name) := by
  unfold State.close
  dsimp only
  split
  · exact popThrough_keeps P hpop (hflush h) name _
  · exact hflush h

/-- The tree is what has been finished once every element is closed. -/
theorem exists_finish (hflush : ∀ {s : State}, P s → P s.flush)
    (hpop : ∀ {s : State}, P s → P s.pop) (h : P s) :
    ∃ closed : State, P closed ∧ s.finish = closed.reversed.reverse := by
  have hclosed : ∀ (frames : List Frame) {s : State}, P s →
      P (frames.foldl (fun s _ => s.pop) s) := by
    intro frames
    induction frames with
    | nil => exact fun h => h
    | cons frame frames ih => exact fun h => ih (hpop h)
  exact ⟨_, hclosed s.flush.frames (hflush h), rfl⟩

end Closing

/-! ## States -/

/-- All strings that are read are short, and what is pending leaves room for more data. -/
structure IsShort (bound data : Nat) (s : State) : Prop where
  /-- Strings below open elements. -/
  within : ∀ frame ∈ s.frames, Node.AllShort bound frame.reversed
  /-- Strings outside of them. -/
  finished : Node.AllShort bound s.reversed
  /-- Data that is no string yet, and the data still to come. -/
  pending : s.pending.flatten.length + data ≤ bound
  /-- Blanks may become one character. -/
  pos : 0 < bound

variable {bound data : Nat} {s : State}

theorem IsShort.add (h : s.IsShort bound data) {node : Node} (hnode : Node.AllShort bound [node]) :
    (s.add node).IsShort bound data := by
  unfold State.add
  split
  · exact ⟨h.within, (Node.allShort_cons ..).mpr ⟨hnode, h.finished⟩, h.pending, h.pos⟩
  · rename_i frame outer hframes
    obtain ⟨hframe, houter⟩ := List.forall_mem_cons.mp (hframes ▸ h.within)
    refine ⟨List.forall_mem_cons.mpr ⟨?_, houter⟩, h.finished, h.pending, h.pos⟩
    exact (Node.allShort_cons ..).mpr ⟨hnode, hframe⟩

/-- A string that enters the tree is no longer than it was, unless it becomes one character. -/
theorem length_settle_le (s : State) (t : Text) : (s.settle t).length ≤ max 1 t.length := by
  unfold settle
  dsimp only
  split
  · split <;> exact Nat.le_max_left ..
  · exact Nat.le_max_right ..

theorem IsShort.flush (h : s.IsShort bound data) : s.flush.IsShort bound data := by
  have hpending := h.pending
  have hpos := h.pos
  unfold State.flush
  split
  · exact h
  · have hemptied : IsShort bound data { s with pending := [] } :=
      ⟨h.within, h.finished, le_trans (by simp) hpending, hpos⟩
    refine hemptied.add (Node.allShort_text fun _ => (length_settle_le ..).trans ?_)
    have hreverse : s.pending.reverse.flatten.length = s.pending.flatten.length := by
      rw [List.length_flatten, List.map_reverse, List.sum_reverse, List.length_flatten]
    omega

theorem IsShort.special (h : s.IsShort bound data) {kind : StringKind}
    (hkind : kind.isRead = false) (t : Text) : (s.special kind t).IsShort bound data :=
  h.flush.add (Node.allShort_text fun hread => by rw [hkind] at hread; cases hread)

theorem IsShort.pop (h : s.IsShort bound data) : s.pop.IsShort bound data := by
  unfold State.pop
  split
  · exact h
  · rename_i frame outer hframes
    obtain ⟨hframe, houter⟩ := List.forall_mem_cons.mp (hframes ▸ h.within)
    have hleft : IsShort bound data { s with frames := outer } :=
      ⟨houter, h.finished, h.pending, h.pos⟩
    have hkids := (Node.allShort_reverse ..).mpr hframe
    exact hleft.add (Node.allShort_element hkids frame.name frame.attributes)

theorem IsShort.close (h : s.IsShort bound data) (name : Text) :
    (s.close name).IsShort bound data :=
  close_keeps (IsShort bound data) IsShort.flush IsShort.pop h name

theorem IsShort.openElement (h : s.IsShort bound data) (name : Text)
    (attributes : List (Text × Text)) : (s.openElement name attributes).IsShort bound data := by
  have hflushed := h.flush
  refine ⟨List.forall_mem_cons.mpr ⟨Node.allShort_nil bound, hflushed.within⟩, hflushed.finished,
    hflushed.pending, hflushed.pos⟩

/-- What has been paid for does not matter. -/
theorem IsShort.pay (h : s.IsShort bound data) (paid : List Text) :
    IsShort bound data { s with paid := paid } :=
  ⟨h.within, h.finished, h.pending, h.pos⟩

/-- A token adds its data and nothing else. -/
theorem IsShort.step {token : Token} {others : List Token}
    (h : s.IsShort bound (dataLength (token :: others))) :
    (s.step token).IsShort bound (dataLength others) := by
  cases token with
  | data t =>
    have hpending := h.pending
    refine ⟨h.within, h.finished, ?_, h.pos⟩
    simp only [State.step, dataLength, List.flatten_cons, List.length_append] at *
    omega
  | opening name attributes closed =>
    have hopened : (s.openElement name attributes).IsShort bound (dataLength others) :=
      IsShort.openElement h name attributes
    cases closed with
    | true => exact hopened.close name
    | false =>
      rw [State.step]
      dsimp only
      split
      · exact (hopened.close name).pay _
      · exact hopened
  | closing name =>
    rw [State.step, State.endTag]
    split
    · exact IsShort.pay h _
    · exact IsShort.close h name
  | comment t => exact IsShort.special h rfl t
  | doctype t => exact IsShort.special h rfl t
  | instruction t => exact IsShort.special h rfl t
  | marked t =>
    rw [State.step]
    split
    · exact IsShort.special h rfl _
    · exact IsShort.special h rfl _

/-- Tokens add their data and nothing else. -/
theorem IsShort.steps {tokens : List Token} (h : s.IsShort bound (dataLength tokens)) :
    (tokens.foldl State.step s).IsShort bound 0 := by
  induction tokens generalizing s with
  | nil => exact h
  | cons token others ih => exact ih h.step

theorem IsShort.finish (h : s.IsShort bound data) : Node.AllShort bound s.finish := by
  obtain ⟨closed, hclosed, hfinish⟩ :=
    exists_finish (IsShort bound data) IsShort.flush IsShort.pop h
  exact hfinish ▸ (Node.allShort_reverse ..).mpr hclosed.finished

end State

/-- No string of a tree that is read is longer than the data of its tokens, or than one
character. -/
theorem allShort_ofTokens (tokens : List Token) :
    Node.AllShort (max 1 (dataLength tokens)) (ofTokens tokens) := by
  have hpending :
      ([] : List Text).flatten.length + dataLength tokens ≤ max 1 (dataLength tokens) := by
    rw [List.flatten_nil, List.length_nil]
    omega
  have hstart : State.IsShort (max 1 (dataLength tokens)) (dataLength tokens) ⟨[], [], [], []⟩ :=
    ⟨by simp, Node.allShort_nil _, hpending, by omega⟩
  exact hstart.steps.finish

/-! ## Data alone -/

/-- Data becomes pending and does nothing else. -/
theorem foldl_step_data (pieces : List Text) (s : State) :
    (pieces.map Token.data).foldl State.step s =
      { s with pending := pieces.reverse ++ s.pending } := by
  induction pieces generalizing s with
  | nil => rfl
  | cons piece others ih =>
    rw [List.map_cons, List.foldl_cons, ih, State.step, List.reverse_cons, List.append_assoc]
    rfl

/-- A string that is not all blank is kept as it is. -/
theorem State.settle_of_solid {t : Text} (h : isAllBlank t = false) (s : State) :
    s.settle t = t := by
  unfold settle
  dsimp only
  refine if_neg fun hblank => ?_
  obtain ⟨hplain, -⟩ := Bool.and_eq_true_iff.mp hblank
  have hall : isAllBlank t = true := by
    refine List.all_eq_true.mpr fun c hc => ?_
    have hc := List.all_eq_true.mp hplain c hc
    simp only [Bool.or_eq_true, decide_eq_true_eq] at hc
    rcases hc with (((rfl | rfl) | rfl) | rfl) | rfl <;> decide
  rw [h] at hall
  cases hall

/-- Pending data becomes one string. -/
theorem State.flush_of_pending {s : State} (h : s.pending ≠ []) :
    s.flush = { s with pending := [] }.add
      (.text s.dataKind (s.settle s.pending.reverse.flatten)) := by
  unfold flush
  split
  · rename_i hnil
    exact absurd hnil h
  · rfl

/-- Data alone is one string, unless it is all blank. -/
theorem ofTokens_data {pieces : List Text} (h : isAllBlank pieces.flatten = false) :
    ofTokens (pieces.map .data) = [.text .plain pieces.flatten] := by
  have hfilled : pieces.reverse ≠ [] := by
    intro hnil
    rw [List.reverse_eq_nil_iff.mp hnil] at h
    cases h
  have hflush : State.flush ⟨[], [], pieces.reverse, []⟩ =
      ⟨[], [.text .plain pieces.flatten], [], []⟩ := by
    rw [State.flush_of_pending hfilled, List.reverse_reverse, State.settle_of_solid h]
    rfl
  rw [ofTokens, foldl_step_data, List.append_nil, State.finish, hflush]
  rfl

end Tree

/-- Markup accounts for its document: no string of it that is read is longer than the markup, or
than one character. -/
theorem parse_accounts (markup : Text) :
    Token.Accounts markup (Node.AllShort (max 1 markup.length)) (parse stray markup) := by
  refine (Token.scan_accounts stray markup).map fun tokens htokens t ht => ?_
  have hshort := Tree.allShort_ofTokens tokens t ht
  omega

end PageMarkdown.Html
