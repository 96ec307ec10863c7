set_option autoImplicit false

/- Forms and their fields, as they stand in the catalog. -/
namespace FormReport

/-- What the values of a field are. -/
inductive ValueType where
  | text
  | number
  | date
  | longText
  | derived
  deriving DecidableEq

structure Field where
  id : String
  name : String
  valueType : ValueType
  /-- An archived field is not active; old records may still hold its values. -/
  active : Bool
  /-- A formula over the display names of fields of the same form. -/
  expression : Option String
  deriving DecidableEq

namespace Field

/-- An active field that is filled in by hand. -/
def plain (id name : String) (valueType : ValueType) : Field :=
  { id, name, valueType, active := true, expression := none }

/-- An active field that is computed. -/
def computed (id name expression : String) : Field :=
  { plain id name .derived with expression := some expression }

def archive (field : Field) : Field := { field with active := false }

/-- The formula that computes a field; the expression of any other field is ignored. -/
def formula? (field : Field) : Option String :=
  if field.valueType = .derived then field.expression else none

end Field

structure Form where
  id : String
  name : String
  active : Bool
  archived : Bool
  fields : List Field
  deriving DecidableEq

namespace Form

def create (id name : String) (fields : List Field) : Form :=
  { id, name, active := true, archived := false, fields }

/-- A form takes part in reports while it is active and not archived. -/
def isLive (form : Form) : Bool := form.active && !form.archived

end Form

end FormReport
