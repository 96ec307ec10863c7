import FormReport.Plan.Calculation

set_option autoImplicit false

/- From a report's definition to its plan. What belongs to forms that take no part is left out; the
first thing that is wrong with the rest is reported. -/
namespace FormReport

structure PlanRequest where
  config : ReportConfig
  /-- The live forms of the report with all their fields. -/
  catalog : Catalog
  /-- The site that the requester is restricted to. -/
  site : Option String

namespace PlanRequest

def inScope (request : PlanRequest) (formId : String) : Bool :=
  request.catalog.any (·.formId = formId)

def selected (request : PlanRequest) : List SelectedField :=
  request.config.selectedFields.filter fun field => request.inScope field.formId

def aggregations (request : PlanRequest) : List Aggregation :=
  request.config.aggregations.filter fun aggregation => request.inScope aggregation.formId

end PlanRequest

/-- The ids of selected fields become storage keys, so they must be in the catalog. -/
def checkSelected (catalog : Catalog) (selected : List SelectedField) : Except PlanError Unit :=
  match selected.find? fun field => (catalog.field? field.formId field.fieldId).isNone with
  | some field => .error (.invalidIdentifier field.formId field.fieldId)
  | none => .ok ()

/-- The column of a selected field: the name that the report gives it, else its display name. -/
def SelectedField.column (field : SelectedField) (catalog : Catalog) : String :=
  if Text.trim field.fieldName ≠ "" then Text.trim field.fieldName
  else ((catalog.field? field.formId field.fieldId).map (·.name)).getD field.fieldId

/-- Adds a key to the candidates of an accessor unless it is one of them. -/
def Accessor.withKey (accessor : Accessor) (key : String) : Accessor :=
  if key ∈ accessor.keys then accessor else { accessor with keys := accessor.keys ++ [key] }

namespace GroupingKey

/-- Adds a key to the first column of a name. -/
def addKey (column key : String) : List GroupingKey → List GroupingKey
  | [] => []
  | grouping :: rest =>
    if grouping.column = column then
      { grouping with accessor := grouping.accessor.withKey key } :: rest
    else grouping :: addKey column key rest

/-- Adds the column of a selected field; fields of one name share a column. -/
def add (catalog : Catalog) (grouping : List GroupingKey) (field : SelectedField) :
    Except PlanError (List GroupingKey) :=
  let column := field.column catalog
  if grouping.any (·.column = column) then .ok (addKey column field.fieldId grouping)
  else do
    let accessor ← Accessor.ofName catalog column (some field.fieldId)
    .ok (grouping ++ [⟨column, accessor⟩])

def ofFields (catalog : Catalog) (fields : List SelectedField) :
    Except PlanError (List GroupingKey) :=
  fields.foldlM (add catalog) []

end GroupingKey

namespace RowFilter

/-- The forms that have a field under its display name or its id. -/
def definingForms (catalog : Catalog) (field : Field) : List String :=
  (catalog.filter fun form =>
    (form.fieldByName? field.name).isSome || (form.fieldById? field.id).isSome).map (·.formId)

def ofFilter (catalog : Catalog) (filter : ReportFilter) : Except PlanError RowFilter :=
  match catalog.lookup? filter.field with
  | none => .error (.unknownReference filter.field)
  | some (_, field) => do
    let accessor ← Accessor.ofName catalog field.name (some field.id)
    .ok {
      accessor
      forms := definingForms catalog field
      operator := filter.operator
      operand := ((Cell.ofJson? filter.value).getD .missing).typed accessor.valueType }

end RowFilter

/-- The output column that a sort order means: one of that name, else that of an aggregated field,
else that of the first selected field with that id, if it is under its given name. -/
def SortOrder.column? (order : SortOrder) (columns : List String) (selected : List SelectedField)
    (aggregates : List AggregateName) : Option String :=
  if order.field ∈ columns then some order.field
  else
    match AggregateName.column? aggregates order.field with
    | some column => some column
    | none =>
      ((selected.find? (·.fieldId = order.field)).map fun hit => Text.trim hit.fieldName).filter
        columns.contains

/-- The sort keys of the orders that name a column. -/
def SortKey.ofOrders (columns : List String) (selected : List SelectedField)
    (aggregates : List AggregateName) (orders : List SortOrder) : List SortKey :=
  orders.filterMap fun order =>
    (order.column? columns selected aggregates).map (⟨·, order.direction⟩)

namespace PlanRequest

/-- Whether the report asks for nothing at all. -/
def isEmpty (config : ReportConfig) : Bool :=
  config.selectedFields.isEmpty && config.aggregations.isEmpty && config.calculations.isEmpty

/-- The plan of a report, with what was noted about it. -/
def compile (settings : Settings) (request : PlanRequest) :
    Traced ZeroedName PlanError (Plan × PlanSummary) := do
  let config := request.config
  let catalog := request.catalog
  let selected := request.selected
  let aggregations := request.aggregations
  if isEmpty config then Traced.fail .noFieldsSelected
  else
    Traced.ofExcept (checkSelected catalog selected)
    let aggregates ← Traced.ofExcept
      (AggregatePlan.ofAggregations catalog settings aggregations)
    let mode := Mode.select (!aggregates.columns.isEmpty) (!config.calculations.isEmpty)
    let grouping ← Traced.ofExcept
      (GroupingKey.ofFields catalog (groupingFields selected aggregations))
    let taken := grouping.map (·.column) ++ aggregates.columns.map (·.column)
    let scope : CalculationScope :=
      { mode, aggregates := aggregates.names, grouping, policy := settings.unresolvedReference }
    let calculations ← scope.columns catalog taken config.calculations
    let columns := taken ++ calculations.map (·.column)
    let filters ← Traced.ofExcept (config.filters.mapM (RowFilter.ofFilter catalog))
    if columns.isEmpty then Traced.fail .noFieldsSelected
    else
      let sort := SortKey.ofOrders columns selected aggregates.names config.sortOrders
      pure (
        { mode
          formIds := catalog.map (·.formId)
          site := request.site
          filters
          grouping
          aggregates := aggregates.columns
          calculations
          sort
          columns },
        { mode
          forms := catalog.length
          grouping := grouping.length
          aggregates := aggregates.columns.length
          calculations := calculations.length
          filters := filters.length
          aliases := aggregates.aliasCount
          ignoredSorts := config.sortOrders.length - sort.length })

end PlanRequest

end FormReport
