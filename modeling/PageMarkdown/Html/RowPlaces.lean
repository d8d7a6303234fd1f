import PageMarkdown.Html.Node

/-!
# Places of rows

Tables may stand inside tables, and a row belongs to the nearest table around it. It stands in the
head of that table when some `thead` lies between the two. Tables are told apart by their number in
document order.
-/

namespace PageMarkdown.Html

/-- Where a row stands. -/
structure RowPlace where
  /-- The number of the table that the row belongs to, if there is one. -/
  table : Option Nat
  /-- A table head lies between the row and its table. -/
  inHead : Bool
  deriving DecidableEq, Repr

/-- The place of what lies inside an element at a place. A table counts as the one with the given
number. -/
def RowPlace.inside (next : Nat) (name : Text) (around : RowPlace) : RowPlace :=
  if name = "table".toList then ⟨some next, false⟩
  else ⟨around.table, around.inHead || name = "thead".toList⟩

mutual

/-- The places of a row and of the rows below it, or below any other node, in document order, and
the number of the next table. -/
def rowPlacesOf (next : Nat) (around : RowPlace) : Node → List RowPlace × Nat
  | .text _ _ => ([], next)
  | .element name _ kids =>
    let own := if name = "tr".toList then [around] else []
    let found := rowPlacesAmong (if name = "table".toList then next + 1 else next)
      (around.inside next name) kids
    (own ++ found.1, found.2)

/-- The places of the rows among and below nodes, and the number of the next table. -/
def rowPlacesAmong (next : Nat) (around : RowPlace) : List Node → List RowPlace × Nat
  | [] => ([], next)
  | node :: others =>
    let here := rowPlacesOf next around node
    let behind := rowPlacesAmong here.2 around others
    (here.1 ++ behind.1, behind.2)

end

/-- The places of all rows of a document, in document order. -/
def rowPlaces (nodes : List Node) : List RowPlace := (rowPlacesAmong 0 ⟨none, false⟩ nodes).1

end PageMarkdown.Html
