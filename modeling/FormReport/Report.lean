import FormReport.Json.Basic

set_option autoImplicit false

/- The definition of a report, and who asks for it. -/
namespace FormReport

inductive AggregateFunction where
  | sum
  | avg
  | count
  | max
  | min
  deriving DecidableEq

/-- The word for the function in the names of columns. -/
def AggregateFunction.suffix : AggregateFunction → String
  | sum => "sum"
  | avg => "avg"
  | count => "count"
  | max => "max"
  | min => "min"

/-- A field to display; rows are grouped by it unless it is aggregated. -/
structure SelectedField where
  formId : String
  fieldId : String
  fieldName : String
  deriving DecidableEq

structure Aggregation where
  formId : String
  fieldId : String
  fieldName : String
  function : AggregateFunction
  deriving DecidableEq

structure Calculation where
  name : String
  expression : String
  deriving DecidableEq

inductive FilterOperator where
  | eq
  | ne
  | gt
  | gte
  | lt
  | lte
  | contains
  deriving DecidableEq

/-- A condition on a field, which is given by id or by display name. -/
structure ReportFilter where
  field : String
  operator : FilterOperator
  value : Json

inductive SortDirection where
  | asc
  | desc
  deriving DecidableEq

/-- A column to sort by, given by its name or by the id of a selected or aggregated field. -/
structure SortOrder where
  field : String
  direction : SortDirection
  deriving DecidableEq

structure ReportConfig where
  selectedForms : List String
  selectedFields : List SelectedField
  aggregations : List Aggregation
  calculations : List Calculation
  filters : List ReportFilter
  sortOrders : List SortOrder
  /-- Kept as it was stored; see `AccessPolicy.normalize`. -/
  accessRules : Option Json

def ReportConfig.empty : ReportConfig where
  selectedForms := []
  selectedFields := []
  aggregations := []
  calculations := []
  filters := []
  sortOrders := []
  accessRules := none

structure Report where
  id : String
  name : String
  creatorId : String
  config : ReportConfig

/-- Who asks for a report. A requester with a site may see that site's records only. -/
structure Requester where
  userId : String
  role : String
  siteId : Option String
  deriving DecidableEq

end FormReport
