import FormReport.Form
import FormReport.Json.Basic
import FormReport.Number.Layout
import FormReport.Number.Reader

set_option autoImplicit false

/- Cells: the scalar values that are read from records and stand in result rows. -/
namespace FormReport

/-- A scalar value. Text counts as a number when it reads as a finite one, dates never do. -/
inductive Cell where
  | text (value : String)
  | number (value : Float)
  | date (value : String)
  | missing
  deriving DecidableEq

namespace Cell

/-- The cell for a stored value; lists and objects have none. -/
def ofJson? : Json → Option Cell
  | .null => some missing
  | .bool value => some (text (if value then "true" else "false"))
  | .integer value => some (number (Float.ofInt value))
  | .decimal value => some (number value)
  | .text value => some (text value)
  | .array _ => none
  | .object _ => none

/-- A text read under the type of its field. -/
def typed (cell : Cell) (valueType : ValueType) : Cell :=
  match valueType, cell with
  | .number, text value =>
    match Number.ofText? value with
    | some x => number x
    | none => text value
  | .date, text value => if Text.trim value = "" then text value else date value
  | _, cell => cell

def isMissing : Cell → Bool
  | missing => true
  | _ => false

/-- A cell that holds nothing to show. -/
def isBlank : Cell → Bool
  | missing => true
  | text value => value.isEmpty
  | date value => value.isEmpty
  | number _ => false

/-- The finite number that a cell stands for. -/
def number? : Cell → Option Float
  | number value => if value.isFinite then some value else none
  | text value => Number.ofText? value
  | _ => none

/-- What stands in the grouping columns of a row of totals. -/
def isTotalPlaceholder : Cell → Bool
  | missing => true
  | number value => value == 0
  | text value => value.isEmpty || value = "0"
  | date value => value.isEmpty || value = "0"

end Cell

/-- The text of a number in a cell: whole numbers below nine quadrillion without a sign on zero,
others by their shortest digits. -/
def Number.cellText (x : Float) : String :=
  match plainInteger? x with
  | some whole => if whole < 0 then "-" ++ Nat.repr whole.natAbs else Nat.repr whole.natAbs
  | none => cellLayout.text x

namespace Cell

/-- The text by which rows are grouped: a number and its text fall together. -/
def groupKey : Cell → Option String
  | missing => none
  | number value => some (Number.cellText value)
  | text value => some value
  | date value => some value

def displayText (cell : Cell) : String := cell.groupKey.getD ""

/-- The cell as it is handed out: whole numbers below nine quadrillion as integers, nothing for
numbers that are not finite. -/
def toJson : Cell → Json
  | missing => .null
  | text value => .text value
  | date value => .text value
  | number value =>
    match Number.plainInteger? value with
    | some whole => .integer whole
    | none => if value.isFinite then .decimal value else .null

/-- The number that a computation gave, if it gave one. -/
def ofNumber? : Option Float → Cell
  | some value => number value
  | none => missing

end Cell

end FormReport
