import Mathlib.Data.List.Nodup
import PageMarkdown.Proofs.Html.Node

/-!
# Sites

A document may hold the same node in several places. A site is a node where it
stands: its path tells it apart from all other nodes, however alike they are, and
around it are its ancestors. The sites below an element are those that have its
path among their ancestors.
-/

namespace PageMarkdown.Html

open Text

/-- The number of a node among its siblings, then that of its parent, and so on outward. -/
abbrev NodePath := List Nat

/-- An element around a node. -/
structure Ancestor where
  /-- Where the element stands. -/
  path : NodePath
  /-- The name of the element. -/
  name : Text
  deriving DecidableEq, Repr

/-- A node where it stands. -/
structure Site where
  /-- Where the node stands. -/
  path : NodePath
  /-- The elements around the node, the innermost one first. -/
  around : List Ancestor
  /-- The node. -/
  node : Node

mutual

/-- The sites of a node at a path and of all nodes below it, in document order. -/
def sitesOf (path : NodePath) (around : List Ancestor) : Node → List Site
  | .text kind content => [⟨path, around, .text kind content⟩]
  | .element name attributes kids =>
    ⟨path, around, .element name attributes kids⟩ ::
      sitesAmong path (⟨path, name⟩ :: around) 0 kids

/-- The sites of siblings, numbered from a number on, and of all nodes below them. -/
def sitesAmong (parent : NodePath) (around : List Ancestor) (number : Nat) :
    List Node → List Site
  | [] => []
  | node :: others =>
    sitesOf (number :: parent) around node ++ sitesAmong parent around (number + 1) others

end

/-- The sites of a document, in document order. -/
def sites (doc : List Node) : List Site := sitesAmong [] [] 0 doc

/-- The sites of siblings that begin with a string. -/
theorem sitesAmong_text (parent : NodePath) (around : List Ancestor) (number : Nat)
    (kind : StringKind) (content : Text) (others : List Node) :
    sitesAmong parent around number (.text kind content :: others) =
      ⟨number :: parent, around, .text kind content⟩ ::
        sitesAmong parent around (number + 1) others := by
  rw [sitesAmong, sitesOf, List.singleton_append]

/-- The sites of siblings that begin with an element. -/
theorem sitesAmong_element (parent : NodePath) (around : List Ancestor) (number : Nat)
    (name : Text) (attributes : Attributes) (kids others : List Node) :
    sitesAmong parent around number (.element name attributes kids :: others) =
      ⟨number :: parent, around, .element name attributes kids⟩ ::
        (sitesAmong (number :: parent) (⟨number :: parent, name⟩ :: around) 0 kids ++
          sitesAmong parent around (number + 1) others) := by
  rw [sitesAmong, sitesOf, List.cons_append]

/-- Every node of a list of trees has one site. -/
theorem map_node_sitesAmong (parent : NodePath) (around : List Ancestor) (number : Nat)
    (nodes : List Node) :
    (sitesAmong parent around number nodes).map (·.node) = Node.preorderAll nodes := by
  induction nodes using Node.forest_induction generalizing parent around number with
  | nil => rfl
  | text kind content others ih =>
    simp [sitesAmong_text, Node.preorderAll, Node.preorder, ih]
  | element name attributes kids others ihKids ih =>
    simp [sitesAmong_element, Node.preorderAll, Node.preorder, ihKids, ih]

theorem map_node_sites (doc : List Node) : (sites doc).map (·.node) = Node.preorderAll doc :=
  map_node_sitesAmong ..

/-! ## Below a path -/

/-- Two siblings with the same nodes below them are the same. -/
theorem eq_of_suffix {i j : Nat} {parent path : NodePath} (hi : i :: parent <:+ path)
    (hj : j :: parent <:+ path) : i = j := by
  have hsame : i :: parent <:+ j :: parent :=
    List.suffix_of_suffix_length_le hi hj (by simp)
  exact (List.cons.inj (hsame.eq_of_length (by simp))).1

namespace Site

/-- The site is that of a path or lies below it: the elements around it are first some that are at
the path or below it, and then the ones around the path. -/
structure Within (path : NodePath) (around : List Ancestor) (s : Site) : Prop where
  /-- The place of the node. -/
  place : path <:+ s.path
  /-- The elements around the node. -/
  chain : ∃ inner, s.around = inner ++ around ∧ ∀ a ∈ inner, path <:+ a.path

/-- What lies within a child lies within its parent. -/
theorem Within.outward {i : Nat} {path : NodePath} {name : Text} {around : List Ancestor}
    {s : Site} (h : s.Within (i :: path) (⟨path, name⟩ :: around)) : s.Within path around := by
  have hchild : path <:+ i :: path := List.suffix_cons i path
  obtain ⟨inner, haround, hinner⟩ := h.chain
  refine ⟨hchild.trans h.place, inner ++ [⟨path, name⟩], by simp [haround], ?_⟩
  intro a ha
  rcases List.mem_append.mp ha with ha | ha
  · exact hchild.trans (hinner a ha)
  · obtain rfl := List.mem_singleton.mp ha
    exact List.suffix_refl _

/-- An element with the path is around the site. -/
def isBelow (path : NodePath) (s : Site) : Bool := s.around.any fun a => a.path = path

/-- The elements around siblings stand further out than the siblings. -/
def Outward (parent : NodePath) (around : List Ancestor) : Prop :=
  ∀ a ∈ around, a.path.length ≤ parent.length

theorem Outward.inside {parent : NodePath} {around : List Ancestor} (h : Outward parent around)
    (i : Nat) (name : Text) : Outward (i :: parent) (⟨i :: parent, name⟩ :: around) := by
  intro a ha
  rcases List.mem_cons.mp ha with rfl | ha
  · exact Nat.le_refl _
  · exact Nat.le_succ_of_le (h a ha)

/-- A site with only outer elements around it is not below a sibling, nor below anything in it. -/
theorem isBelow_of_outward {parent path : NodePath} {s : Site} {i : Nat}
    (houtward : Outward parent s.around) (hpath : i :: parent <:+ path) :
    s.isBelow path = false := by
  refine List.any_eq_false.mpr fun a ha => ?_
  have hlength := hpath.length_le
  have hshort := houtward a ha
  simp only [decide_eq_true_eq]
  rintro rfl
  simp only [List.length_cons] at hlength
  omega

/-- What lies within one sibling is not below another one, nor below anything in it. -/
theorem Within.isBelow_of_ne {parent path : NodePath} {around : List Ancestor} {s : Site}
    {i j : Nat} (h : s.Within (j :: parent) around) (houtward : Outward parent around)
    (hpath : i :: parent <:+ path) (hne : i ≠ j) : s.isBelow path = false := by
  obtain ⟨inner, haround, hinner⟩ := h.chain
  have houter := isBelow_of_outward (s := ⟨s.path, around, s.node⟩) houtward hpath
  rw [isBelow, haround, List.any_append, Bool.or_eq_false_iff]
  refine ⟨List.any_eq_false.mpr fun a ha => ?_, houter⟩
  simp only [decide_eq_true_eq]
  rintro rfl
  exact hne (eq_of_suffix hpath (hinner a ha))

/-- What lies within a child of an element is below the element. -/
theorem Within.isBelow_parent {path : NodePath} {name : Text} {around : List Ancestor} {s : Site}
    {i : Nat} (h : s.Within (i :: path) (⟨path, name⟩ :: around)) : s.isBelow path = true := by
  obtain ⟨inner, haround, -⟩ := h.chain
  simp [isBelow, haround]

end Site

open Site

section

variable {parent : NodePath} {around : List Ancestor} {number : Nat} {nodes : List Node}

/-- The sites of siblings lie within them. -/
theorem within_of_mem_sitesAmong {s : Site} (h : s ∈ sitesAmong parent around number nodes) :
    ∃ j, number ≤ j ∧ s.Within (j :: parent) around := by
  induction nodes using Node.forest_induction generalizing parent around number with
  | nil => cases h
  | text kind content others ih =>
    rcases List.mem_append.mp h with h | h
    · obtain rfl := List.mem_singleton.mp h
      exact ⟨number, Nat.le_refl _, List.suffix_refl _, [], rfl, by simp⟩
    · obtain ⟨j, hj, hwithin⟩ := ih h
      exact ⟨j, Nat.le_of_succ_le hj, hwithin⟩
  | element name attributes kids others ihKids ih =>
    rcases List.mem_append.mp h with h | h
    · refine ⟨number, Nat.le_refl _, ?_⟩
      rcases List.mem_cons.mp h with rfl | h
      · exact ⟨List.suffix_refl _, [], rfl, by simp⟩
      · obtain ⟨j, -, hwithin⟩ := ihKids h
        exact hwithin.outward
    · obtain ⟨j, hj, hwithin⟩ := ih h
      exact ⟨j, Nat.le_of_succ_le hj, hwithin⟩

/-- Siblings behind a node and what is below them are not below what is at the node or below it. -/
theorem filter_isBelow_behind {path : NodePath} {i : Nat} (houtward : Outward parent around)
    (hpath : i :: parent <:+ path) (hnumber : i < number) :
    (sitesAmong parent around number nodes).filter (isBelow path) = [] := by
  refine List.filter_eq_nil_iff.mpr fun s hs => ?_
  obtain ⟨j, hj, hwithin⟩ := within_of_mem_sitesAmong hs
  simp [hwithin.isBelow_of_ne houtward hpath (by omega)]

/-- No two sites have the same path. -/
theorem nodup_path_sitesAmong (parent : NodePath) (around : List Ancestor) (number : Nat)
    (nodes : List Node) : ((sitesAmong parent around number nodes).map (·.path)).Nodup := by
  induction nodes using Node.forest_induction generalizing parent around number with
  | nil => exact List.nodup_nil
  | text kind content others ih =>
    rw [sitesAmong_text, List.map_cons, List.nodup_cons]
    refine ⟨fun hmem => ?_, ih ..⟩
    obtain ⟨s, hs, hpath⟩ := List.mem_map.mp hmem
    obtain ⟨j, hj, hwithin⟩ := within_of_mem_sitesAmong hs
    have hsame := eq_of_suffix (hpath ▸ hwithin.place) (List.suffix_refl (number :: parent))
    omega
  | element name attributes kids others ihKids ih =>
    have hkids : ∀ s ∈ sitesAmong (number :: parent) (⟨number :: parent, name⟩ :: around) 0 kids,
        ∃ j, s.Within (j :: number :: parent) (⟨number :: parent, name⟩ :: around) := fun s hs => by
      obtain ⟨j, -, hwithin⟩ := within_of_mem_sitesAmong hs
      exact ⟨j, hwithin⟩
    rw [sitesAmong_element, List.map_cons, List.map_append, List.nodup_cons, List.mem_append,
      List.nodup_append]
    refine ⟨?_, ihKids .., ih .., ?_⟩
    · rintro (hmem | hmem)
      · obtain ⟨s, hs, hpath⟩ := List.mem_map.mp hmem
        obtain ⟨j, hwithin⟩ := hkids s hs
        have hlength := hwithin.place.length_le
        simp only [hpath, List.length_cons] at hlength
        omega
      · obtain ⟨s, hs, hpath⟩ := List.mem_map.mp hmem
        obtain ⟨j, hj, hwithin⟩ := within_of_mem_sitesAmong hs
        have hsame := eq_of_suffix (hpath ▸ hwithin.place) (List.suffix_refl (number :: parent))
        omega
    · intro path hmem path' hmem' heq
      obtain ⟨s, hs, rfl⟩ := List.mem_map.mp hmem
      obtain ⟨s', hs', hpath⟩ := List.mem_map.mp hmem'
      obtain ⟨i, hkid⟩ := hkids s hs
      obtain ⟨j, hj, hother⟩ := within_of_mem_sitesAmong hs'
      have hsame := eq_of_suffix hkid.outward.place (heq ▸ hpath ▸ hother.place)
      omega

/-- The sites below an element are those of its children and of the nodes below them. -/
theorem filter_isBelow_sitesAmong (houtward : Outward parent around) {s : Site} {name : Text}
    {attributes : Attributes} {kids : List Node} (hs : s ∈ sitesAmong parent around number nodes)
    (hnode : s.node = .element name attributes kids) :
    (sitesAmong parent around number nodes).filter (isBelow s.path) =
      sitesAmong s.path (⟨s.path, name⟩ :: s.around) 0 kids := by
  induction nodes using Node.forest_induction generalizing parent around number with
  | nil => cases hs
  | text kind content others ih =>
    rw [sitesAmong_text] at hs ⊢
    rcases List.mem_cons.mp hs with rfl | hs
    · cases hnode
    · obtain ⟨j, -, hwithin⟩ := within_of_mem_sitesAmong hs
      have hself : isBelow s.path ⟨number :: parent, around, .text kind content⟩ = false :=
        isBelow_of_outward houtward hwithin.place
      rw [List.filter_cons_of_neg (by simp [hself])]
      exact ih houtward hs
  | element first attributes' kids' others ihKids ih =>
    have hinside := houtward.inside number first
    rw [sitesAmong_element] at hs ⊢
    have hself : ∀ {path : NodePath} {i : Nat}, i :: parent <:+ path →
        isBelow path ⟨number :: parent, around, .element first attributes' kids'⟩ = false :=
      fun hpath => isBelow_of_outward houtward hpath
    rcases List.mem_cons.mp hs with rfl | hs
    · -- The element itself: all below it is among its children.
      obtain ⟨rfl, rfl, rfl⟩ := Node.element.inj hnode
      rw [List.filter_cons_of_neg (by simp [hself (List.suffix_refl _)]), List.filter_append,
        filter_isBelow_behind houtward (List.suffix_refl _) (Nat.lt_succ_self _), List.append_nil]
      refine List.filter_eq_self.mpr fun s hs => ?_
      obtain ⟨j, -, hwithin⟩ := within_of_mem_sitesAmong hs
      exact hwithin.isBelow_parent
    · rcases List.mem_append.mp hs with hs | hs
      · obtain ⟨j, -, hwithin⟩ := within_of_mem_sitesAmong hs
        have hpath := hwithin.outward.place
        rw [List.filter_cons_of_neg (by simp [hself hpath]), List.filter_append,
          filter_isBelow_behind houtward hpath (Nat.lt_succ_self _), List.append_nil]
        exact ihKids hinside hs
      · obtain ⟨j, hj, hwithin⟩ := within_of_mem_sitesAmong hs
        have hkids : (sitesAmong (number :: parent) (⟨number :: parent, first⟩ :: around) 0
            kids').filter (isBelow s.path) = [] := by
          refine List.filter_eq_nil_iff.mpr fun kid hkid => ?_
          obtain ⟨i, -, hin⟩ := within_of_mem_sitesAmong hkid
          simp [hin.outward.isBelow_of_ne houtward hwithin.place (by omega)]
        rw [List.filter_cons_of_neg (by simp [hself hwithin.place]), List.filter_append, hkids,
          List.nil_append]
        exact ih houtward hs

/-- The elements around a site have sites themselves, with the elements around them that come behind
them, unless they are around all siblings. -/
theorem exists_site_of_around {s : Site} (hs : s ∈ sitesAmong parent around number nodes)
    {inner outer : List Ancestor} {a : Ancestor} (haround : s.around = inner ++ a :: outer) :
    (a :: outer <:+ around) ∨ ∃ t ∈ sitesAmong parent around number nodes,
      t.path = a.path ∧ t.around = outer ∧ t.node.isNamed a.name = true := by
  induction nodes using Node.forest_induction generalizing parent around number with
  | nil => cases hs
  | text kind content others ih =>
    rcases List.mem_append.mp hs with hs | hs
    · obtain rfl := List.mem_singleton.mp hs
      exact .inl ⟨inner, haround.symm⟩
    · refine (ih hs).imp_right ?_
      rintro ⟨t, ht, hfound⟩
      exact ⟨t, List.mem_append_right _ ht, hfound⟩
  | element name attributes kids others ihKids ih =>
    rcases List.mem_append.mp hs with hs | hs
    · rcases List.mem_cons.mp hs with rfl | hs
      · exact .inl ⟨inner, haround.symm⟩
      · rcases ihKids hs with houter | ⟨t, ht, hfound⟩
        · rcases List.suffix_cons_iff.mp houter with heq | houter
          · obtain ⟨rfl, rfl⟩ := List.cons.inj heq
            exact .inr ⟨_, List.mem_append_left _ List.mem_cons_self, rfl, rfl,
              by simp [Node.isNamed]⟩
          · exact .inl houter
        · exact .inr ⟨t, List.mem_append_left _ (List.mem_cons_of_mem _ ht), hfound⟩
    · refine (ih hs).imp_right ?_
      rintro ⟨t, ht, hfound⟩
      exact ⟨t, List.mem_append_right _ ht, hfound⟩

end

/-! ## Documents -/

variable {doc : List Node}

theorem outward_nil : Outward [] [] := by simp [Outward]

/-- A site is known by its path. -/
theorem eq_of_path_eq {s t : Site} (hs : s ∈ sites doc) (ht : t ∈ sites doc)
    (hpath : s.path = t.path) : s = t :=
  List.inj_on_of_nodup_map (nodup_path_sitesAmong [] [] 0 doc) hs ht hpath

/-- The sites below an element of a document. -/
theorem filter_isBelow_sites {s : Site} (hs : s ∈ sites doc) {name : Text}
    {attributes : Attributes} {kids : List Node} (hnode : s.node = .element name attributes kids) :
    (sites doc).filter (isBelow s.path) = sitesAmong s.path (⟨s.path, name⟩ :: s.around) 0 kids :=
  filter_isBelow_sitesAmong outward_nil hs hnode

/-- The elements around a site have sites themselves. -/
theorem exists_site_of_mem_around {s : Site} (hs : s ∈ sites doc) {inner outer : List Ancestor}
    {a : Ancestor} (haround : s.around = inner ++ a :: outer) :
    ∃ t ∈ sites doc, t.path = a.path ∧ t.around = outer ∧ t.node.isNamed a.name = true := by
  rcases exists_site_of_around hs haround with houter | hfound
  · simp at houter
  · exact hfound

end PageMarkdown.Html
