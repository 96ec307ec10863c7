import FormReport.Access
import FormReport.Text.Lowercase

set_option autoImplicit false

namespace FormReport

/-- What a name in a calculation means that names nothing. -/
inductive UnresolvedPolicy where
  /-- Planning fails. -/
  | reject
  /-- The name reads as zero. -/
  | zero
  deriving DecidableEq

structure Settings where
  access : AccessPolicy
  unresolvedReference : UnresolvedPolicy
  /-- Parts of the names of fields that count things; their sums are rounded to integers. -/
  integerSumMarkers : List String
  /-- Show the text of system faults to users. -/
  developmentMode : Bool
  deriving DecidableEq

namespace Settings

def default : Settings where
  access := .default
  unresolvedReference := .reject
  integerSumMarkers := ["count", "quantity", "qty", "数量", "尾数", "头数", "只数"]
  developmentMode := false

/-- Whether a field name has one of the marks of a count, in any case. -/
def isIntegerQuantity (settings : Settings) (fieldName : String) : Bool :=
  let lowered := Text.lowercase fieldName
  settings.integerSumMarkers.any fun marker =>
    !marker.isEmpty && Text.containsText lowered (Text.lowercase marker)

end Settings

end FormReport
