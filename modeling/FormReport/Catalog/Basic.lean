import FormReport.Form

set_option autoImplicit false

/- The fields of the forms that take part in a report. One logical field may have an id of its own
in every form, and old rows may be keyed by its display name, so a field is read through a list of
candidate keys. -/
namespace FormReport

/-- The fields of one form, archived ones included. -/
structure FormFields where
  formId : String
  fields : List Field
  deriving DecidableEq

namespace FormFields

def fieldById? (form : FormFields) (id : String) : Option Field :=
  form.fields.find? (·.id = id)

/-- The field with a display name, an active one if there is one. -/
def fieldByName? (form : FormFields) (name : String) : Option Field :=
  (form.fields.find? fun field => field.name = name && field.active).or
    (form.fields.find? (·.name = name))

/-- The ids of all fields with a display name. -/
def idsNamed (form : FormFields) (name : String) : List String :=
  (form.fields.filter (·.name = name)).map (·.id)

end FormFields

abbrev Catalog := List FormFields

namespace Catalog

def form? (catalog : Catalog) (formId : String) : Option FormFields :=
  catalog.find? (·.formId = formId)

/-- The field that a form has under an id. -/
def field? (catalog : Catalog) (formId fieldId : String) : Option Field :=
  (catalog.form? formId).bind (·.fieldById? fieldId)

/-- A field and the form it was found in. -/
def find? (catalog : Catalog) (inForm : FormFields → Option Field) : Option (String × Field) :=
  catalog.findSome? fun form => (inForm form).map (form.formId, ·)

/-- The field that a reference means: by id in any form first, then by display name. -/
def lookup? (catalog : Catalog) (reference : String) : Option (String × Field) :=
  (catalog.find? (·.fieldById? reference)).or (catalog.find? (·.fieldByName? reference))

/-- The keys under which a display name may be stored: the name itself, then the ids of all fields
with that name, in form order. -/
def candidateKeys (catalog : Catalog) (name : String) : List String :=
  (name :: catalog.flatMap (·.idsNamed name)).eraseDups

/-- The keys of one field: its display name, its id, then the ids of its namesakes in the form. -/
def keysInForm (catalog : Catalog) (formId fieldId name : String) : List String :=
  (name :: fieldId :: ((catalog.form? formId).map (·.idsNamed name)).getD []).eraseDups

end Catalog

end FormReport
