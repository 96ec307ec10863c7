import FormReport.Form
import FormReport.Json.Basic
import FormReport.Text.Set

set_option autoImplicit false

namespace FormReport

/-- A submission: one act of a user that stores several rows at once. The keys of a row are field
ids or display names. -/
structure Record where
  id : String
  formId : String
  siteId : String
  userId : String
  rows : List Json
  /-- The fields as they stood when the record was submitted. -/
  fieldSnapshot : List Field

namespace Record

/-- The names and ids that the snapshot or the fields of the form explain. -/
def knownKeys (record : Record) (fields : List Field) : List String :=
  (record.fieldSnapshot ++ fields).flatMap fun field => [field.id, field.name]

/-- The row keys that no field explains, as a set. -/
def unresolvedKeys (record : Record) (fields : List Field) : List String :=
  let keys := record.rows.flatMap fun row => (row.fields?.getD []).keys
  Text.textSet (keys.filter fun key => !(record.knownKeys fields).contains key)

end Record

end FormReport
