import PageMarkdown.Markdown.Shown

/-!
# How a node is shown

A string without references is shown as it is but for its blanks. An element that
is entered is shown in one of four ways, whatever its role: by a fixed text, by
its walked children inside a frame, by its items, or by the rows of a table. Only
the last three depend on the room that is left.
-/

namespace PageMarkdown.Markdown

open Text Html

/-! ## Strings -/

/-- Without an ampersand there is no reference to resolve. -/
theorem resolveFrom_plain {t : Text} (h : '&' ∉ t) : Reference.resolveFrom 0 t = .ok t := by
  induction t with
  | nil => rfl
  | cons c t ih =>
    obtain ⟨hc, ht⟩ := not_or.mp (mt List.mem_cons.mpr h)
    rw [Reference.resolveFrom, if_neg (Ne.symm hc), ih ht]
    rfl

/-- A string without references only has its blanks squeezed. -/
theorem stringMarkdown_plain {t : Text} (h : '&' ∉ t) :
    stringMarkdown t = .clear (squeeze t) := by
  have hshown : shownText t = .ok (squeeze t) := by
    rw [shownText, Reference.resolveAll, resolveFrom_plain h]
    rfl
  rw [stringMarkdown, hshown]

/-! ## Elements -/

/-- An element that does more than show its content has one of the listed names. -/
theorem Role.exists_known {name : Text} {role : Role} (h : Role.ofName name = role)
    (hrole : role ≠ .transparent) :
    ∃ entry ∈ Role.known, entry.1.toList = lower name ∧ entry.2 = role := by
  rw [Role.ofName] at h
  split at h
  · rename_i entry hfound
    exact ⟨entry, List.mem_of_find?_eq_some hfound, by simpa using List.find?_some hfound, h⟩
  · exact absurd h.symm hrole

/-- An element that is shown by its items is a list. -/
theorem role_of_items {name : Text} {attributes : Attributes} {kids : List Node} {ordered : Bool}
    (h : shown name attributes kids = .items ordered) : Role.ofName name = .list ordered := by
  rw [shown] at h
  cases hrole : Role.ofName name <;> simp_all

/-- The rows of a table element: only one in lower case has any. -/
def tableRowsOf (room : Nat) (name : Text) (kids : List Node) : Marked (List TableRow) :=
  if name = "table".toList then walkRows room false kids else .clear []

/-- The marks of a table are those of its rows, unless hollow tables count. -/
theorem any_marks_tableMarkdown {p : Mark → Bool} (hp : ∀ n, p (.hollowTable n) = false)
    (rows : Marked (List TableRow)) : (tableMarkdown rows).marks.any p = rows.marks.any p := by
  rw [tableMarkdown, List.any_append]
  split <;> simp [hp]

/-- Without room an element is cut. -/
theorem walk_element_zero (depth : Nat) (name : Text) (attributes : Attributes)
    (kids : List Node) : walk 0 depth (.element name attributes kids) = ⟨[], [.cut name]⟩ := by
  rw [walk]

/-- With room an element is entered and shown in its way. -/
theorem walk_element_succ (room depth : Nat) (name : Text) (attributes : Attributes)
    (kids : List Node) :
    walk (room + 1) depth (.element name attributes kids) =
      match shown name attributes kids with
      | .fixed t => .clear t
      | .content frame => (walkAll room depth kids).map frame
      | .items ordered => (walkItems room depth kids).map (renderList ordered depth)
      | .rows => tableMarkdown (tableRowsOf room name kids) := by
  rw [walk, shown]
  cases Role.ofName name <;> rfl

end PageMarkdown.Markdown
