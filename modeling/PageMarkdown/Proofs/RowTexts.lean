import PageMarkdown.Html.Tree
import PageMarkdown.Proofs.RowOwners

/-!
# Texts of rows

A row shows the strings that lie in its cells. Looking outward from a string, the
cells of two rows can only come one after the other, so that two rows show a
string in common exactly when one of them lies in a cell of the other and has a
string to show. Without end tags a row does lie in a cell of the row before it,
and what it shows is shown twice.
-/

namespace PageMarkdown.Markdown

open Text Html

/-- The site lies in a cell of a row: the elements around it end with the cell, the row, and what is
around the row. -/
def InCellOf (row s : Site) : Prop :=
  ∃ cell : Ancestor, isCellName cell.name = true ∧
    cell :: ⟨row.path, "tr".toList⟩ :: row.around <:+ s.around

/-- The site is a string. -/
def IsString (s : Site) : Prop := ∃ kind content, s.node = .text kind content

/-- The row shows the string of a site: it lies in one of its cells. -/
def Shows (row s : Site) : Prop := IsString s ∧ InCellOf row s

/-- What lies in a cell of a row lies in the cell that the row lies in itself. -/
theorem InCellOf.trans {row inner s : Site} (h : InCellOf row inner) (hs : InCellOf inner s) :
    InCellOf row s := by
  obtain ⟨cell, hcell, hrow⟩ := h
  obtain ⟨innerCell, -, hinner⟩ := hs
  have haround : inner.around <:+ innerCell :: ⟨inner.path, "tr".toList⟩ :: inner.around :=
    (List.suffix_cons ..).trans (List.suffix_cons ..)
  exact ⟨cell, hcell, hrow.trans (haround.trans hinner)⟩

/-- No cell is called like a row. -/
theorem isCellName_row : isCellName "tr".toList = false := by decide

/-- Where the cell of one row comes further out than the cell of another one, or at the same place,
the other row lies in it or is the same. -/
theorem inCellOf_of_suffix {row row' : Site} {cell cell' : Ancestor}
    (hcell : isCellName cell.name = true)
    (h : cell :: ⟨row.path, "tr".toList⟩ :: row.around <:+
      cell' :: ⟨row'.path, "tr".toList⟩ :: row'.around) :
    row.path = row'.path ∨ InCellOf row row' := by
  rcases List.suffix_cons_iff.mp h with hsame | h
  · obtain ⟨-, hrow⟩ := List.cons.inj hsame
    exact .inl (congrArg Ancestor.path (List.cons.inj hrow).1)
  · rcases List.suffix_cons_iff.mp h with hsame | h
    · -- The cell would be the row that lies in it.
      rw [(List.cons.inj hsame).1, isCellName_row] at hcell
      cases hcell
    · exact .inr ⟨cell, hcell, h⟩

/-- Of two rows with a common site in their cells, one lies in a cell of the other. -/
theorem inCellOf_of_common {row row' s : Site} (hne : row.path ≠ row'.path)
    (h : InCellOf row s) (h' : InCellOf row' s) : InCellOf row row' ∨ InCellOf row' row := by
  obtain ⟨cell, hcell, hrow⟩ := h
  obtain ⟨cell', hcell', hrow'⟩ := h'
  rcases List.suffix_or_suffix_of_suffix hrow hrow' with hsuffix | hsuffix
  · exact .inl ((inCellOf_of_suffix hcell hsuffix).resolve_left hne)
  · exact .inr ((inCellOf_of_suffix hcell' hsuffix).resolve_left hne.symm)

/-- The rows that the walk finds in a table are those of which it is the owner. Two of them show a
string in common exactly when one lies in a cell of the other and shows a string itself. -/
theorem rows_share_string_iff {doc : List Node} {table : Site} (htable : table ∈ tables doc) :
    (∀ room, (walkRows room false table.node.children).value =
        (rowsOf doc table).map (rowAt room)) ∧
      ∀ row ∈ rowsOf doc table, ∀ row' ∈ rowsOf doc table, row.path ≠ row'.path →
        ((∃ s ∈ sites doc, Shows row s ∧ Shows row' s) ↔
          (InCellOf row row' ∧ ∃ s ∈ sites doc, Shows row' s) ∨
            (InCellOf row' row ∧ ∃ s ∈ sites doc, Shows row s)) := by
  refine ⟨fun room => value_walkRows_table room htable, fun row _ row' _ hne => ?_⟩
  constructor
  · rintro ⟨s, hs, hshows, hshows'⟩
    rcases inCellOf_of_common hne hshows.2 hshows'.2 with hnested | hnested
    · exact .inl ⟨hnested, s, hs, hshows'⟩
    · exact .inr ⟨hnested, s, hs, hshows⟩
  · rintro (⟨hnested, s, hs, hshows⟩ | ⟨hnested, s, hs, hshows⟩)
    · exact ⟨s, hs, ⟨hshows.1, hnested.trans hshows.2⟩, hshows⟩
    · exact ⟨s, hs, hshows, hshows.1, hnested.trans hshows.2⟩

/-- A table with two rows that are alike. -/
def twinRow : Node := .element "tr".toList [] [.element "td".toList [] [.text .plain "a".toList]]

/-- The site of that table in a document of its own. -/
def twinTable : Site := ⟨[0], [], .element "table".toList [] [twinRow, twinRow]⟩

/-- The two rows of the table are alike and show nothing in common. -/
theorem rows_share_string_iff_twins :
    twinTable ∈ tables [twinTable.node] ∧
      ∃ row ∈ rowsOf [twinTable.node] twinTable, ∃ row' ∈ rowsOf [twinTable.node] twinTable,
        row.path ≠ row'.path ∧ row.node = row'.node ∧
          ¬ ∃ s ∈ sites [twinTable.node], Shows row s ∧ Shows row' s := by
  have htable : twinTable ∈ tables [twinTable.node] := List.mem_singleton.mpr rfl
  have hrows : rowsOf [twinTable.node] twinTable =
      [⟨[0, 0], [⟨[0], "table".toList⟩], twinRow⟩, ⟨[1, 0], [⟨[0], "table".toList⟩], twinRow⟩] :=
    rfl
  obtain ⟨-, hshared⟩ := rows_share_string_iff htable
  rw [hrows] at hshared ⊢
  refine ⟨htable, _, List.mem_cons_self, _, List.mem_cons_of_mem _ List.mem_cons_self, by decide,
    rfl, ?_⟩
  rw [hshared _ List.mem_cons_self _ (List.mem_cons_of_mem _ List.mem_cons_self) (by decide)]
  -- Only the table is around either of the rows.
  rintro (⟨⟨cell, -, hsuffix⟩, -⟩ | ⟨⟨cell, -, hsuffix⟩, -⟩)
  · exact absurd hsuffix.length_le (by simp)
  · exact absurd hsuffix.length_le (by simp)

/-- A table whose rows and cells have no end tags. -/
def openRows : Text := "<table><tr><td>a<tr><td>b</table>".toList

/-- The second row of that table. -/
def openRow : Node :=
  .element "tr".toList [] [.element "td".toList [] [.text .plain "b".toList]]

/-- The first row, which has the second one in its cell. -/
def openerRow : Node :=
  .element "tr".toList [] [.element "td".toList [] [.text .plain "a".toList, openRow]]

/-- Without end tags both rows of a table show the string of the second one, and it is written
twice. -/
theorem openRows_share_string :
    ∃ doc table row row' s, (∀ stray, parse stray openRows = .ok doc) ∧ table ∈ tables doc ∧
      row ∈ rowsOf doc table ∧ row' ∈ rowsOf doc table ∧ row.path ≠ row'.path ∧
      s ∈ sites doc ∧ s.node = .text .plain "b".toList ∧ Shows row s ∧ Shows row' s ∧
      (walkRows 100 false table.node.children).value =
        [⟨["ab".toList], false, false⟩, ⟨["b".toList], false, false⟩] := by
  let table : Ancestor := ⟨[0], "table".toList⟩
  let outer : Ancestor := ⟨[0, 0], "tr".toList⟩
  let cell : Ancestor := ⟨[0, 0, 0], "td".toList⟩
  let inner : Ancestor := ⟨[1, 0, 0, 0], "tr".toList⟩
  let last : Ancestor := ⟨[0, 1, 0, 0, 0], "td".toList⟩
  have hcell : isCellName "td".toList = true := by decide
  refine ⟨[.element "table".toList [] [openerRow]],
    ⟨[0], [], .element "table".toList [] [openerRow]⟩, ⟨[0, 0], [table], openerRow⟩,
    ⟨[1, 0, 0, 0], [cell, outer, table], openRow⟩,
    ⟨[0, 0, 1, 0, 0, 0], [last, inner, cell, outer, table], .text .plain "b".toList⟩,
    fun _ => rfl, List.mem_singleton.mpr rfl, List.mem_cons_self,
    List.mem_cons_of_mem _ List.mem_cons_self, by decide, List.mem_of_getLast? rfl, rfl,
    ⟨⟨_, _, rfl⟩, cell, hcell, [last, inner], rfl⟩, ⟨⟨_, _, rfl⟩, last, hcell, [], rfl⟩,
    by decide +kernel⟩

end PageMarkdown.Markdown
