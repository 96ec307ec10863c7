import FormReport.Plan.Basic
import FormReport.Record

set_option autoImplicit false

/- Stored rows and how accessors and formulas read them. -/
namespace FormReport

/-- The first value under one of the keys that is not blank. A list or an object that is met before
is no value: its key is the error. -/
def probe (row : Keyed Json) : List String → Except String Cell
  | [] => .ok .missing
  | key :: rest =>
    match row.get? key with
    | none => probe row rest
    | some stored =>
      match Cell.ofJson? stored with
      | none => .error key
      | some cell => if cell.isBlank then probe row rest else .ok cell

/-- A row of a record and where it comes from. -/
structure StoredRow where
  recordId : String
  formId : String
  index : Nat
  fields : Keyed Json

namespace StoredRow

def probe (row : StoredRow) (keys : List String) : Except RunError Cell :=
  (FormReport.probe row.fields keys).mapError fun key =>
    .malformedPath row.recordId row.index s!"value under `{key}` is not a scalar"

mutual

/-- The cell that an accessor reads: a stored value under the type of the field, else the value of
the formula for the row's form. -/
def read (row : StoredRow) : Accessor → Except RunError Cell
  | ⟨keys, valueType, derivations⟩ => do
    let stored ← row.probe keys
    if stored.isMissing then derived row derivations
    else .ok (stored.typed valueType)

/-- The value of the first formula for the row's form. -/
def derived (row : StoredRow) : List (String × Expression Accessor) → Except RunError Cell
  | [] => .ok .missing
  | (formId, formula) :: rest =>
    if formId = row.formId then do
      let value ← compute row formula
      .ok (Cell.ofNumber? value)
    else derived row rest

/-- The value of a field's formula, in which a field without a number reads as zero. -/
def compute (row : StoredRow) : Expression Accessor → Except RunError (Option Float)
  | .ref accessor => do
    let cell ← read row accessor
    .ok (some (cell.number?.getD 0))
  | .number value => .ok (some value)
  | .neg inner => do
    let value ← compute row inner
    .ok (value.map fun x => -x)
  | .binary operator left right => do
    let left ← compute row left
    let right ← compute row right
    .ok (left.bind fun x => right.bind fun y => operator.apply x y)

end

/-- What a leaf of a calculation gives over a stored row; columns of finished rows are not there. -/
def leaf (row : StoredRow) : Leaf Accessor → Except RunError (Option Float)
  | .aggregate _ => .ok none
  | .grouping _ => .ok none
  | .raw accessor => do
    let cell ← row.read accessor
    .ok cell.number?

/-- A field's formula is evaluated as any other expression. -/
theorem compute_eq_eval (row : StoredRow) (formula : Expression Accessor) :
    row.compute formula = formula.eval fun accessor => (row.read accessor).map Cell.number? := by
  induction formula with
  | ref accessor =>
    simp only [compute, Expression.eval]
    cases row.read accessor <;> rfl
  | number value => rfl
  | neg inner ih =>
    simp only [compute, Expression.eval, ih]
    rfl
  | binary operator left right left_ih right_ih =>
    simp only [compute, Expression.eval, left_ih, right_ih]
    rfl

end StoredRow

/-- A finished row: cells under column names. -/
abbrev ResultRow := Keyed Cell

namespace ResultRow

/-- The number in a column. -/
def number? (row : ResultRow) (column : String) : Option Float :=
  (row.get? column).bind Cell.number?

/-- What a leaf of a calculation gives over a finished row; stored rows are not there. -/
def leaf (row : ResultRow) : Leaf Accessor → Except RunError (Option Float)
  | .aggregate column => .ok (number? row column)
  | .grouping column => .ok (number? row column)
  | .raw _ => .ok none

end ResultRow

end FormReport
