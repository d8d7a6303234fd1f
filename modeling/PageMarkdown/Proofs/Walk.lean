import PageMarkdown.Proofs.Html.Node
import PageMarkdown.Proofs.Marks

/-!
# Walks over nodes in two parts

Every walk looks at one node after another, so a walk over nodes in two parts finds
what it finds in the first part and then what it finds in the second one. A walk for
rows finds none where no element is spelled like one.
-/

namespace PageMarkdown.Markdown

open Text Html

namespace Marked

variable {α : Type}

theorem append_assoc (m n o : Marked (List α)) : m ++ n ++ o = m ++ (n ++ o) := by
  show (⟨m.value ++ n.value ++ o.value, m.marks ++ n.marks ++ o.marks⟩ : Marked (List α)) = _
  rw [List.append_assoc, List.append_assoc]
  rfl

@[simp] theorem clear_append (m : Marked (List α)) : clear [] ++ m = m := rfl

end Marked

theorem walkAll_append (room depth : Nat) (nodes others : List Node) :
    walkAll room depth (nodes ++ others) =
      walkAll room depth nodes ++ walkAll room depth others := by
  induction nodes with
  | nil => rw [List.nil_append, walkAll, Marked.clear_append]
  | cons node nodes ih => rw [List.cons_append, walkAll, ih, walkAll, Marked.append_assoc]

/-- The Markdown of one node alone. -/
theorem walkAll_singleton (room depth : Nat) (node : Node) :
    walkAll room depth [node] = walk room depth node := by
  rw [walkAll, walkAll, Marked.append_clear]

theorem walkRows_append (room : Nat) (inHead : Bool) (nodes others : List Node) :
    walkRows room inHead (nodes ++ others) =
      walkRows room inHead nodes ++ walkRows room inHead others := by
  induction nodes with
  | nil => rw [List.nil_append, walkRows, Marked.clear_append]
  | cons node nodes ih =>
    cases node with
    | text kind content => rw [List.cons_append, walkRows, ih, walkRows]
    | element name attributes kids =>
      rw [List.cons_append, walkRows, ih, walkRows, Marked.append_assoc]

theorem walkItems_append (room depth : Nat) (nodes others : List Node) :
    walkItems room depth (nodes ++ others) =
      walkItems room depth nodes ++ walkItems room depth others := by
  induction nodes with
  | nil => rw [List.nil_append, walkItems, Marked.clear_append]
  | cons node nodes ih =>
    cases node with
    | text kind content => rw [List.cons_append, walkItems, ih, walkItems]
    | element name attributes kids =>
      rw [List.cons_append, walkItems, ih, walkItems]
      split
      · rw [Marked.append_assoc]
      · rfl

theorem walkCells_append (room : Nat) (nodes others : List Node) :
    walkCells room (nodes ++ others) =
      ⟨((walkCells room nodes).value.1 ++ (walkCells room others).value.1,
        (walkCells room nodes).value.2 || (walkCells room others).value.2),
        (walkCells room nodes).marks ++ (walkCells room others).marks⟩ := by
  induction nodes with
  | nil =>
    rw [List.nil_append, walkCells]
    rfl
  | cons node nodes ih =>
    cases node with
    | text kind content => rw [List.cons_append, walkCells, ih, walkCells]
    | element name attributes kids =>
      rw [List.cons_append, walkCells, ih, walkCells]
      dsimp only
      split
      · simp only [List.append_assoc, Bool.or_assoc]
      · rfl

/-- Without an element that is spelled like a row no rows are found. -/
theorem walkRows_withoutRows (room : Nat) (inHead : Bool) (nodes : List Node)
    (h : ∀ node ∈ Node.preorderAll nodes, node.isNamed "tr".toList = false) :
    walkRows room inHead nodes = .clear [] := by
  induction nodes using Node.forest_induction generalizing inHead with
  | nil => rfl
  | text kind content others ih =>
    rw [walkRows, ih inHead ((Node.forall_preorderAll_text ..).mp h).2]
  | element name attributes kids others ihKids ih =>
    obtain ⟨hself, hkids, hothers⟩ := (Node.forall_preorderAll_element ..).mp h
    rw [walkRows, ihKids _ hkids, ih inHead hothers, if_neg (of_decide_eq_false hself)]
    split <;> rfl

end PageMarkdown.Markdown
