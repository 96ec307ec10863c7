import FormReport.Cell.Order
import FormReport.Run.Row
import FormReport.Text.Lowercase

set_option autoImplicit false

/- Conditions on stored rows. -/
namespace FormReport.RowFilter

/-- Whether a cell meets a condition. A blank side can only be equal or not; a number against a text
is never in order. -/
def accepts (units : Char → List Char) (filter : RowFilter) (cell : Cell) : Bool :=
  let operand := filter.operand
  let ordered := cell.number?.isSome == operand.number?.isSome
  let present := !cell.isBlank && !operand.isBlank
  let order := cell.order units operand
  match filter.operator with
  | .contains =>
    !cell.isBlank &&
      Text.containsText (Text.lowercase cell.displayText) (Text.lowercase operand.displayText)
  | .eq => if present then order == .eq else cell.isBlank && operand.isBlank
  | .ne => if present then order != .eq else !(cell.isBlank && operand.isBlank)
  | .gt => present && ordered && order == .gt
  | .gte => present && ordered && order != .lt
  | .lt => present && ordered && order == .lt
  | .lte => present && ordered && order != .gt

/-- Whether a row passes. Rows of forms that do not define the field do. -/
def passes (units : Char → List Char) (filter : RowFilter) (row : StoredRow) :
    Except RunError Bool :=
  if filter.forms.contains row.formId then do
    let cell ← row.read filter.accessor
    .ok (filter.accepts units cell)
  else .ok true

/-- Whether a row passes all filters. After the first that it fails nothing more is read. -/
def allPass (units : Char → List Char) (row : StoredRow) : List RowFilter → Except RunError Bool
  | [] => .ok true
  | filter :: rest => do
    if ← filter.passes units row then allPass units row rest else .ok false

/-- The rows that pass all filters. -/
def keep (units : Char → List Char) (filters : List RowFilter) :
    List StoredRow → Except RunError (List StoredRow)
  | [] => .ok []
  | row :: rest => do
    let passed ← allPass units row filters
    let kept ← keep units filters rest
    .ok (if passed then row :: kept else kept)

end FormReport.RowFilter
