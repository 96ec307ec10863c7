import FormReport.Exchange.Decode
import FormReport.Report

set_option autoImplicit false

/- Reports and requesters as documents. -/
namespace FormReport

namespace AggregateFunction

def name : AggregateFunction → String
  | sum => "SUM"
  | avg => "AVG"
  | count => "COUNT"
  | max => "MAX"
  | min => "MIN"

def words : List (String × AggregateFunction) :=
  [("SUM", sum), ("sum", sum), ("AVG", avg), ("avg", avg), ("COUNT", count), ("count", count),
   ("MAX", max), ("max", max), ("MIN", min), ("min", min)]

def ofJson? : Json → Option AggregateFunction := Json.word? Json.isNull words

end AggregateFunction

namespace FilterOperator

def name : FilterOperator → String
  | eq => "eq"
  | ne => "ne"
  | gt => "gt"
  | gte => "gte"
  | lt => "lt"
  | lte => "lte"
  | contains => "contains"

def words : List (String × FilterOperator) :=
  [("eq", eq), ("=", eq), ("==", eq), ("ne", ne), ("!=", ne), ("gt", gt), (">", gt), ("gte", gte),
   (">=", gte), ("lt", lt), ("<", lt), ("lte", lte), ("<=", lte), ("contains", contains)]

def ofJson? : Json → Option FilterOperator := Json.word? Json.isNull words

end FilterOperator

namespace SortDirection

def name : SortDirection → String
  | asc => "asc"
  | desc => "desc"

def words : List (String × SortDirection) :=
  [("asc", asc), ("ASC", asc), ("ascending", asc), ("desc", desc), ("DESC", desc),
   ("descending", desc)]

def ofJson? : Json → Option SortDirection := Json.word? Json.isNull words

end SortDirection

namespace SelectedField

def ofJson? (stored : Json) : Option SelectedField := do
  let fields ← stored.fields?
  let formId ← Json.required fields "formId" Json.text?
  let fieldId ← Json.required fields "fieldId" Json.text?
  let fieldName ← Json.required fields "fieldName" Json.text?
  some { formId, fieldId, fieldName }

def toJson (field : SelectedField) : Json :=
  .object [("formId", .text field.formId), ("fieldId", .text field.fieldId),
    ("fieldName", .text field.fieldName)]

end SelectedField

namespace Aggregation

def ofJson? (stored : Json) : Option Aggregation := do
  let fields ← stored.fields?
  let formId ← Json.required fields "formId" Json.text?
  let fieldId ← Json.required fields "fieldId" Json.text?
  let fieldName ← Json.required fields "fieldName" Json.text?
  let function ← Json.required fields "function" AggregateFunction.ofJson?
  some { formId, fieldId, fieldName, function }

def toJson (aggregation : Aggregation) : Json :=
  .object [("formId", .text aggregation.formId), ("fieldId", .text aggregation.fieldId),
    ("fieldName", .text aggregation.fieldName), ("function", .text aggregation.function.name)]

end Aggregation

namespace Calculation

def ofJson? (stored : Json) : Option Calculation := do
  let fields ← stored.fields?
  let name ← Json.required fields "name" Json.text?
  let expression ← Json.required fields "expression" Json.text?
  some { name, expression }

def toJson (calculation : Calculation) : Json :=
  .object [("name", .text calculation.name), ("expression", .text calculation.expression)]

end Calculation

namespace ReportFilter

def ofJson? (stored : Json) : Option ReportFilter := do
  let fields ← stored.fields?
  let field ← Json.required fields "field" Json.text?
  let operator ← Json.required fields "operator" FilterOperator.ofJson?
  let value ← Json.required fields "value" some
  some { field, operator, value }

def toJson (filter : ReportFilter) : Json :=
  .object [("field", .text filter.field), ("operator", .text filter.operator.name),
    ("value", filter.value)]

end ReportFilter

namespace SortOrder

def ofJson? (stored : Json) : Option SortOrder := do
  let fields ← stored.fields?
  let field ← Json.required fields "field" Json.text?
  let direction ← Json.orDefault fields "direction" SortDirection.ofJson? .asc
  some { field, direction }

def toJson (order : SortOrder) : Json :=
  .object [("field", .text order.field), ("direction", .text order.direction.name)]

end SortOrder

namespace ReportConfig

def ofJson? (stored : Json) : Option ReportConfig := do
  let fields ← stored.fields?
  let selectedForms ← Json.orDefault fields "selectedForms" (Json.list? Json.text?) []
  let selectedFields ←
    Json.orDefault fields "selectedFields" (Json.list? SelectedField.ofJson?) []
  let aggregations ← Json.orDefault fields "aggregations" (Json.list? Aggregation.ofJson?) []
  let calculations ← Json.orDefault fields "calculations" (Json.list? Calculation.ofJson?) []
  let filters ← Json.orDefault fields "filters" (Json.list? ReportFilter.ofJson?) []
  let sortOrders ← Json.orDefault fields "sortOrders" (Json.list? SortOrder.ofJson?) []
  let accessRules ← Json.nullable fields "accessRules" some
  some { selectedForms, selectedFields, aggregations, calculations, filters, sortOrders,
         accessRules }

def toJson (config : ReportConfig) : Json :=
  .object ([("selectedForms", Json.texts config.selectedForms),
    ("selectedFields", .array (config.selectedFields.map SelectedField.toJson)),
    ("aggregations", .array (config.aggregations.map Aggregation.toJson)),
    ("calculations", .array (config.calculations.map Calculation.toJson)),
    ("filters", .array (config.filters.map ReportFilter.toJson)),
    ("sortOrders", .array (config.sortOrders.map SortOrder.toJson))] ++
    (config.accessRules.map fun rules => ("accessRules", rules)).toList)

end ReportConfig

namespace Report

def ofJson? (stored : Json) : Option Report := do
  let fields ← stored.fields?
  let id ← Json.required fields "id" Json.text?
  let name ← Json.required fields "name" Json.text?
  let creatorId ← Json.required fields "creatorId" Json.text?
  let config ← Json.orDefault fields "config" ReportConfig.ofJson? .empty
  some { id, name, creatorId, config }

def toJson (report : Report) : Json :=
  .object [("id", .text report.id), ("name", .text report.name),
    ("creatorId", .text report.creatorId), ("config", report.config.toJson)]

end Report

namespace Requester

def ofJson? (stored : Json) : Option Requester := do
  let fields ← stored.fields?
  let userId ← Json.required fields "userId" Json.text?
  let role ← Json.required fields "role" Json.text?
  let siteId ← Json.nullable fields "siteId" Json.text?
  some { userId, role, siteId }

def toJson (requester : Requester) : Json :=
  .object [("userId", .text requester.userId), ("role", .text requester.role),
    ("siteId", Json.optional .text requester.siteId)]

end Requester

end FormReport
