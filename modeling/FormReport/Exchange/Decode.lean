import FormReport.Json.Basic

set_option autoImplicit false

/- How the parts of a document are decoded. A decoder takes a whole value; fields that it does not
name are of no account. -/
namespace FormReport.Json

variable {α : Type}

/-- A field that must be there. -/
def required (fields : Keyed Json) (key : String) (decode : Json → Option α) : Option α :=
  (fields.get? key).bind decode

/-- A field that may be absent. If it is there, it must decode. -/
def orDefault (fields : Keyed Json) (key : String) (decode : Json → Option α) (value : α) :
    Option α :=
  match fields.get? key with
  | none => some value
  | some stored => decode stored

/-- A field that may be absent or null. -/
def nullable (fields : Keyed Json) (key : String) (decode : Json → Option α) : Option (Option α) :=
  match fields.get? key with
  | none => some none
  | some null => some none
  | some stored => (decode stored).map some

def list? (decode : Json → Option α) (stored : Json) : Option (List α) :=
  stored.array?.bind (·.mapM decode)

def isNull : Json → Bool
  | null => true
  | _ => false

/-- One of a set of words, alone or as the only field of an object, over a value without content. -/
def word? (isUnit : Json → Bool) (words : List (String × α)) : Json → Option α
  | text word => words.lookup word
  | object [(word, content)] => if isUnit content then words.lookup word else none
  | _ => none

end FormReport.Json
