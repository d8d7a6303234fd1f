import PageMarkdown.Html.Node

/-!
# Induction on forests

A list of nodes is empty, or begins with a string, or begins with an element
whose children are a list of nodes again. Every walk of this library recurses in
this way, so one induction principle on lists of nodes serves them all.
-/

namespace PageMarkdown.Html

open Text

namespace Node

/-- A property of all lists of nodes, proved along the children and the following siblings. -/
@[elab_as_elim]
theorem forest_induction {P : List Node → Prop} (nil : P [])
    (text : ∀ kind content others, P others → P (.text kind content :: others))
    (element : ∀ name attributes kids others, P kids → P others →
      P (.element name attributes kids :: others))
    (nodes : List Node) : P nodes := by
  -- A node stands for what its children satisfy; a string has none.
  refine @Node.rec_1 (fun node => ∀ others, P others → P (node :: others)) P ?_ ?_ nil ?_ nodes
  · exact fun kind content others => text kind content others
  · exact fun name attributes kids hkids others => element name attributes kids others hkids
  · exact fun node others hnode hothers => hnode others hothers

/-- What holds of all nodes below a list that begins with a string. -/
theorem forall_preorderAll_text {p : Node → Prop} (kind : StringKind) (content : Text)
    (others : List Node) :
    (∀ node ∈ preorderAll (.text kind content :: others), p node) ↔
      p (.text kind content) ∧ ∀ node ∈ preorderAll others, p node := by
  rw [preorderAll, preorder, List.singleton_append, List.forall_mem_cons]

/-- What holds of all nodes below a list that begins with an element. -/
theorem forall_preorderAll_element {p : Node → Prop} (name : Text) (attributes : Attributes)
    (kids others : List Node) :
    (∀ node ∈ preorderAll (.element name attributes kids :: others), p node) ↔
      p (.element name attributes kids) ∧ (∀ node ∈ preorderAll kids, p node) ∧
        ∀ node ∈ preorderAll others, p node := by
  rw [preorderAll, preorder, List.cons_append, List.forall_mem_cons, List.forall_mem_append]

theorem preorderAll_eq_flatMap (nodes : List Node) :
    preorderAll nodes = nodes.flatMap preorder := by
  induction nodes with
  | nil => rfl
  | cons node others ih => rw [preorderAll, ih, List.flatMap_cons]

/-- What holds of all nodes below a list holds below its first node and below the others. -/
theorem forall_preorderAll_cons {p : Node → Prop} (node : Node) (others : List Node) :
    (∀ n ∈ preorderAll (node :: others), p n) ↔
      (∀ n ∈ preorderAll [node], p n) ∧ ∀ n ∈ preorderAll others, p n := by
  simp only [preorderAll_eq_flatMap, List.flatMap_cons, List.flatMap_nil, List.append_nil,
    List.forall_mem_append]

/-- The order of a list does not matter for what holds of all nodes below it. -/
theorem forall_preorderAll_reverse {p : Node → Prop} (nodes : List Node) :
    (∀ n ∈ preorderAll nodes.reverse, p n) ↔ ∀ n ∈ preorderAll nodes, p n := by
  simp only [preorderAll_eq_flatMap, List.mem_flatMap, List.mem_reverse]

/-- The text of nodes that begin with a string. -/
theorem innerText_text (kind : StringKind) (content : Text) (others : List Node) :
    innerText (.text kind content :: others) =
      (if kind.isInnerText then content else []) ++ innerText others := by
  cases h : kind.isInnerText <;> simp [innerText, innerStrings, preorderAll, preorder, h]

/-- The text of nodes that begin with an element. -/
theorem innerText_element (name : Text) (attributes : Attributes) (kids others : List Node) :
    innerText (.element name attributes kids :: others) = innerText kids ++ innerText others := by
  simp [innerText, innerStrings, preorderAll, preorder]

theorem innerText_append (nodes others : List Node) :
    innerText (nodes ++ others) = innerText nodes ++ innerText others := by
  induction nodes with
  | nil => rfl
  | cons node nodes ih =>
    cases node with
    | text kind content =>
      rw [List.cons_append, innerText_text, innerText_text, ih, List.append_assoc]
    | element name attributes kids =>
      rw [List.cons_append, innerText_element, innerText_element, ih, List.append_assoc]

/-- What lies below the children of a node lies below the nodes around it. -/
theorem preorderAll_children_subset {node : Node} {nodes : List Node}
    (h : node ∈ preorderAll nodes) : preorderAll node.children ⊆ preorderAll nodes := by
  induction nodes using forest_induction with
  | nil => cases h
  | text kind content others ih =>
    rw [preorderAll, preorder] at *
    rcases List.mem_cons.mp h with rfl | h
    · exact List.nil_subset _
    · exact List.Subset.trans (ih h) (List.subset_append_right ..)
  | element name attributes kids others ihKids ih =>
    rw [preorderAll, preorder] at *
    rcases List.mem_append.mp h with h | h
    · refine List.Subset.trans ?_ (List.subset_append_left ..)
      rcases List.mem_cons.mp h with rfl | h
      · exact List.subset_cons_self ..
      · exact List.Subset.trans (ihKids h) (List.subset_cons_self ..)
    · exact List.Subset.trans (ih h) (List.subset_append_right ..)

/-- The lists of nodes that are converted of a tree: all of it, or the children of a node in it. -/
inductive IsRoot (nodes : List Node) : List Node → Prop where
  /-- The whole tree. -/
  | whole : IsRoot nodes nodes
  /-- What one node holds. -/
  | below {node : Node} (hnode : node ∈ preorderAll nodes) : IsRoot nodes node.children

theorem IsRoot.preorderAll_subset {nodes root : List Node} (h : IsRoot nodes root) :
    preorderAll root ⊆ preorderAll nodes := by
  cases h with
  | whole => exact List.Subset.refl _
  | below hnode => exact preorderAll_children_subset hnode

/-- The strings below nodes that are read, in document order. -/
def readStrings (nodes : List Node) : List Text :=
  (preorderAll nodes).filterMap fun
    | text kind content => if kind.isRead then some content else none
    | element _ _ _ => none

theorem readStrings_text (kind : StringKind) (content : Text) (others : List Node) :
    readStrings (.text kind content :: others) =
      (if kind.isRead then [content] else []) ++ readStrings others := by
  cases h : kind.isRead <;> simp [readStrings, preorderAll, preorder, h]

theorem readStrings_element (name : Text) (attributes : Attributes) (kids others : List Node) :
    readStrings (.element name attributes kids :: others) =
      readStrings kids ++ readStrings others := by
  simp [readStrings, preorderAll, preorder]

theorem mem_readStrings {t : Text} {nodes : List Node} :
    t ∈ readStrings nodes ↔ ∃ kind, kind.isRead = true ∧ .text kind t ∈ preorderAll nodes := by
  rw [readStrings, List.mem_filterMap]
  constructor
  · rintro ⟨node, hnode, hread⟩
    cases node with
    | text kind content =>
      obtain ⟨hkind, hcontent⟩ := Option.ite_none_right_eq_some.mp hread
      exact ⟨kind, hkind, Option.some.inj hcontent ▸ hnode⟩
    | element name attributes kids => cases hread
  · rintro ⟨kind, hkind, hnode⟩
    exact ⟨_, hnode, if_pos hkind⟩

theorem IsRoot.readStrings_subset {nodes root : List Node} (h : IsRoot nodes root) :
    readStrings root ⊆ readStrings nodes := by
  intro t ht
  obtain ⟨kind, hkind, hmem⟩ := mem_readStrings.mp ht
  exact mem_readStrings.mpr ⟨kind, hkind, h.preorderAll_subset hmem⟩

end Node

end PageMarkdown.Html
