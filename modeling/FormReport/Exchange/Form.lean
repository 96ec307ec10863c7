import FormReport.Exchange.Decode
import FormReport.Form
import FormReport.Record

set_option autoImplicit false

/- Forms, fields and records as documents. -/
namespace FormReport

namespace ValueType

def name : ValueType → String
  | text => "text"
  | number => "number"
  | date => "date"
  | longText => "long-text"
  | derived => "derived"

def words : List (String × ValueType) :=
  [("text", text), ("number", number), ("date", date), ("long-text", longText),
   ("textarea", longText), ("long_text", longText), ("derived", derived), ("calculated", derived),
   ("formula", derived)]

def ofJson? : Json → Option ValueType := Json.word? Json.isNull words

end ValueType

namespace Field

def ofJson? (stored : Json) : Option Field := do
  let fields ← stored.fields?
  let id ← Json.required fields "id" Json.text?
  let name ← Json.required fields "name" Json.text?
  let valueType ← Json.required fields "valueType" ValueType.ofJson?
  let active ← Json.orDefault fields "active" Json.bool? true
  let expression ← Json.nullable fields "derivationExpression" Json.text?
  some { id, name, valueType, active, expression }

def toJson (field : Field) : Json :=
  .object ([("id", .text field.id), ("name", .text field.name),
    ("valueType", .text field.valueType.name), ("active", .bool field.active)] ++
    (field.expression.map fun source => ("derivationExpression", Json.text source)).toList)

end Field

namespace Form

def ofJson? (stored : Json) : Option Form := do
  let fields ← stored.fields?
  let id ← Json.required fields "id" Json.text?
  let name ← Json.required fields "name" Json.text?
  let active ← Json.orDefault fields "active" Json.bool? true
  let archived ← Json.orDefault fields "archived" Json.bool? false
  let content ← Json.orDefault fields "fields" (Json.list? Field.ofJson?) []
  some { id, name, active, archived, fields := content }

def toJson (form : Form) : Json :=
  .object [("id", .text form.id), ("name", .text form.name), ("active", .bool form.active),
    ("archived", .bool form.archived), ("fields", .array (form.fields.map Field.toJson))]

end Form

namespace Record

def ofJson? (stored : Json) : Option Record := do
  let fields ← stored.fields?
  let id ← Json.required fields "id" Json.text?
  let formId ← Json.required fields "formId" Json.text?
  let siteId ← Json.required fields "siteId" Json.text?
  let userId ← Json.required fields "userId" Json.text?
  let rows ← Json.orDefault fields "batchRows" Json.array? []
  let fieldSnapshot ← Json.orDefault fields "fieldSnapshot" (Json.list? Field.ofJson?) []
  some { id, formId, siteId, userId, rows, fieldSnapshot }

def toJson (record : Record) : Json :=
  .object [("id", .text record.id), ("formId", .text record.formId),
    ("siteId", .text record.siteId), ("userId", .text record.userId),
    ("batchRows", .array record.rows),
    ("fieldSnapshot", .array (record.fieldSnapshot.map Field.toJson))]

end Record

end FormReport
