import FormReport.Cell.Basic
import FormReport.Text.Collation

set_option autoImplicit false

/- The order of cells: numbers first, then texts, missing cells last. -/
namespace FormReport.Cell

/-- The class of a cell in the order. -/
def rank (cell : Cell) : Nat :=
  match cell with
  | missing => 2
  | cell => if cell.number?.isSome then 0 else 1

/-- Numbers by value, everything else by its text, whose characters are spelled with units. -/
def order (units : Char → List Char) (left right : Cell) : Ordering :=
  (compare left.rank right.rank).then <|
    match left.number?, right.number? with
    | some x, some y => Number.order x y
    | _, _ => Text.collate units left.displayText right.displayText

end FormReport.Cell
