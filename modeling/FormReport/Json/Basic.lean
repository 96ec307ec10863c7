import FormReport.Keyed

set_option autoImplicit false

namespace FormReport

/-- A document: nested lists and objects over plain values. Whole numbers are kept apart from
decimals. -/
inductive Json where
  | null
  | bool (value : Bool)
  | integer (value : Int)
  | decimal (value : Float)
  | text (value : String)
  | array (items : List Json)
  | object (fields : List (String × Json))

namespace Json

/-- The value of a field; `none` for anything but an object that has it. -/
def field? (key : String) : Json → Option Json
  | object fields => Keyed.get? fields key
  | _ => none

def fields? : Json → Option (Keyed Json)
  | object fields => some fields
  | _ => none

def array? : Json → Option (List Json)
  | array items => some items
  | _ => none

def text? : Json → Option String
  | text value => some value
  | _ => none

def bool? : Json → Option Bool
  | bool value => some value
  | _ => none

/-- A number of either kind. -/
def number? : Json → Option Float
  | integer value => some (Float.ofInt value)
  | decimal value => some value
  | _ => none

def texts (values : List String) : Json := array (values.map text)

/-- The text of a value, or null. -/
def optional {α : Type} (encode : α → Json) : Option α → Json
  | some value => encode value
  | none => null

end Json

end FormReport
