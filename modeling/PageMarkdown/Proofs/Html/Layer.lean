import PageMarkdown.Proofs.Html.ScriptText

/-!
# Layers around a place

A place in a document is given by the elements around it, from the outermost one
inward, each with its siblings. Setting nodes at the place gives a document; the
elements around them are among its nodes, each holding all that is set inside it.
-/

namespace PageMarkdown.Html

open Text

/-- An element around a place, with the siblings in front of it and behind it. -/
structure Layer where
  /-- The name of the element. -/
  name : Text
  /-- Its attributes. -/
  attributes : Attributes := []
  /-- The siblings in front of it. -/
  before : List Node := []
  /-- The siblings behind it. -/
  after : List Node := []

/-- The element of a layer around nodes. -/
def Layer.element (l : Layer) (nodes : List Node) : Node := .element l.name l.attributes nodes

/-- The element of a layer around nodes, among its siblings. -/
def Layer.around (l : Layer) (nodes : List Node) : List Node :=
  l.before ++ l.element nodes :: l.after

/-- The document that has nodes inside layers, the outermost layer being the first. -/
def nest (layers : List Layer) (nodes : List Node) : List Node := layers.foldr Layer.around nodes

@[simp] theorem nest_nil (nodes : List Node) : nest [] nodes = nodes := rfl

@[simp] theorem nest_cons (l : Layer) (layers : List Layer) (nodes : List Node) :
    nest (l :: layers) nodes = l.around (nest layers nodes) := rfl

theorem Layer.mem_around (l : Layer) (nodes : List Node) : l.element nodes ∈ l.around nodes :=
  List.mem_append_right _ List.mem_cons_self

namespace Node

/-- A node of a list is one of the nodes of its trees. -/
theorem mem_preorderAll_of_mem {node : Node} {nodes : List Node} (h : node ∈ nodes) :
    node ∈ preorderAll nodes := by
  rw [preorderAll_eq_flatMap, List.mem_flatMap]
  refine ⟨node, h, ?_⟩
  cases node with
  | text kind content => exact List.mem_cons_self
  | element name attributes kids => exact List.mem_cons_self

end Node

/-- The element of each layer is a node of the document, around all that is set inside it. -/
theorem mem_preorderAll_nest (outer : List Layer) (l : Layer) (inner : List Layer)
    (nodes : List Node) :
    l.element (nest inner nodes) ∈ Node.preorderAll (nest (outer ++ l :: inner) nodes) := by
  induction outer with
  | nil => exact Node.mem_preorderAll_of_mem (l.mem_around _)
  | cons o outer ih =>
    have ho : o.element (nest (outer ++ l :: inner) nodes) ∈
        Node.preorderAll (nest (o :: outer ++ l :: inner) nodes) :=
      Node.mem_preorderAll_of_mem (o.mem_around _)
    exact Node.preorderAll_children_subset ho ih

/-! ## Layers of built trees -/

section Built

variable {outer inner : List Layer} {l : Layer} {before after : List Node} {kind : StringKind}
  {content : Text}

/-- Around a string of a built tree only the innermost layer can be raw, and it is exactly when the
string is the text of a script. -/
theorem isRaw_of_allSorted
    (h : Node.AllSorted (nest (outer ++ l :: inner) (before ++ .text kind content :: after))) :
    Token.isRaw l.name = (inner.isEmpty && kind.isScript) := by
  have hkids := h _ (mem_preorderAll_nest outer l inner _)
  cases inner with
  | nil => exact (hkids _ (List.mem_append_right before List.mem_cons_self)).symm
  | cons next inner => exact (hkids _ (next.mem_around _)).symm

/-- The name of a layer of a built tree is in lower case. -/
theorem lower_name_of_allBuilt {nodes : List Node}
    (h : Node.AllBuilt (nest (outer ++ l :: inner) nodes)) : lower l.name = l.name := by
  obtain ⟨⟨written, hname⟩, -⟩ := h _ (mem_preorderAll_nest outer l inner nodes)
  rw [hname, lower_lower]

end Built

end PageMarkdown.Html
