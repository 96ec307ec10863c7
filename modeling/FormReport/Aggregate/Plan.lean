import FormReport.Catalog.Accessor
import FormReport.Report
import FormReport.Settings

set_option autoImplicit false

/- The columns of aggregates: one for each form, field and function, with a name of its own. -/
namespace FormReport

structure AggregateColumn where
  column : String
  /-- Only rows of this form contribute. -/
  formId : String
  fieldId : String
  fieldName : String
  function : AggregateFunction
  accessor : Accessor
  /-- The sum of a field that counts things is rounded once it is complete. -/
  roundsToInteger : Bool
  deriving DecidableEq

/-- The column under which the aggregate of a field is found. -/
structure AggregateName where
  fieldId : String
  fieldName : String
  column : String
  deriving DecidableEq

/-- The column that a reference means: of the first aggregate of a field with that id, else of the
first with that display name. -/
def AggregateName.column? (names : List AggregateName) (reference : String) : Option String :=
  ((names.find? (·.fieldId = reference)).or (names.find? (·.fieldName = reference))).map (·.column)

structure AggregatePlan where
  columns : List AggregateColumn
  /-- How many aggregations repeat an earlier form, field and function. -/
  aliasCount : Nat
  deriving DecidableEq

namespace AggregatePlan

def names (plan : AggregatePlan) : List AggregateName :=
  plan.columns.map fun planned => ⟨planned.fieldId, planned.fieldName, planned.column⟩

def column? (plan : AggregatePlan) (reference : String) : Option String :=
  AggregateName.column? plan.names reference

/-- The first of a name, the name with `_2`, with `_3` and so on that is not used. One more name
than are used always holds a free one. -/
def freeColumn (used : List String) (base : String) : String :=
  let numbered := (List.range used.length).map fun index => s!"{base}_{index + 2}"
  ((base :: numbered).find? fun column => !used.contains column).getD base

/-- Whether an aggregation repeats one that has a column. -/
def covers (plan : AggregatePlan) (aggregation : Aggregation) : Bool :=
  plan.columns.any fun planned =>
    planned.formId = aggregation.formId && planned.fieldId = aggregation.fieldId &&
      planned.function = aggregation.function

/-- The name of an aggregation's field: as the report gives it, else as the catalog does. -/
def fieldName (aggregation : Aggregation) (field : Field) : String :=
  if aggregation.fieldName = "" then field.name else aggregation.fieldName

/-- Adds the column of one aggregation. -/
def add (catalog : Catalog) (settings : Settings) (plan : AggregatePlan)
    (aggregation : Aggregation) : Except PlanError AggregatePlan :=
  if plan.covers aggregation then .ok { plan with aliasCount := plan.aliasCount + 1 }
  else
    match catalog.form? aggregation.formId with
    | none => .error (.invalidIdentifier aggregation.formId aggregation.fieldId)
    | some form =>
      match form.fieldById? aggregation.fieldId with
      | none => .error (.invalidIdentifier aggregation.formId aggregation.fieldId)
      | some field => do
        let name := fieldName aggregation field
        let accessor ← Accessor.ofField catalog form field
        .ok { plan with
          columns := plan.columns ++ [{
            column := freeColumn (plan.columns.map (·.column))
              s!"{name}_{aggregation.function.suffix}"
            formId := aggregation.formId
            fieldId := aggregation.fieldId
            fieldName := name
            function := aggregation.function
            accessor
            roundsToInteger :=
              aggregation.function = .sum && settings.isIntegerQuantity name }] }

def ofAggregations (catalog : Catalog) (settings : Settings) (aggregations : List Aggregation) :
    Except PlanError AggregatePlan :=
  aggregations.foldlM (add catalog settings) ⟨[], 0⟩

end AggregatePlan

/-- The selected fields that no aggregation takes, in order. -/
def groupingFields (selected : List SelectedField) (aggregations : List Aggregation) :
    List SelectedField :=
  selected.filter fun field => !aggregations.any (·.fieldId = field.fieldId)

end FormReport
