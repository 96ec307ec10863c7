import FormReport.Cell.Order
import FormReport.Run.Row

set_option autoImplicit false

/- The last two passes over finished rows: rows of totals are dropped, and the rest is sorted. -/
namespace FormReport.ResultRow

/-- Whether nothing but totals stands in the grouping columns of a row. -/
def isTotal (groupingColumns : List String) (row : ResultRow) : Bool :=
  groupingColumns.all fun column => ((row.get? column).map Cell.isTotalPlaceholder).getD true

/-- The rows that are no totals. Without grouping columns the one row is the result itself. -/
def dropTotals (groupingColumns : List String) (rows : List ResultRow) : List ResultRow :=
  if groupingColumns.isEmpty then rows else rows.filter fun row => !isTotal groupingColumns row

/-- How many rows are dropped as totals. -/
def droppedTotals (groupingColumns : List String) (rows : List ResultRow) : Nat :=
  rows.length - (dropTotals groupingColumns rows).length

/-- The order of two cells that may be absent, which is the same as missing: they come last. -/
def orderCells (units : Char → List Char) (left right : Option Cell) : Ordering :=
  match left.filter (!·.isMissing), right.filter (!·.isMissing) with
  | none, none => .eq
  | none, some _ => .gt
  | some _, none => .lt
  | some left, some right => left.order units right

/-- The order of two rows under one key. Descending order puts missing cells first. -/
def orderByKey (units : Char → List Char) (key : SortKey) (left right : ResultRow) : Ordering :=
  let order := orderCells units (left.get? key.column) (right.get? key.column)
  match key.direction with
  | .asc => order
  | .desc => order.swap

/-- The order of two rows: the first key that tells them apart decides. -/
def orderBy (units : Char → List Char) (keys : List SortKey) (left right : ResultRow) :
    Ordering :=
  match keys with
  | [] => .eq
  | key :: rest => (orderByKey units key left right).then (orderBy units rest left right)

/-- The rows in order. Rows that no key tells apart stay as they are, and so do all without keys. -/
def sort (units : Char → List Char) (keys : List SortKey) (rows : List ResultRow) :
    List ResultRow :=
  if keys.isEmpty then rows
  else rows.mergeSort fun left right => orderBy units keys left right != .gt

end FormReport.ResultRow
