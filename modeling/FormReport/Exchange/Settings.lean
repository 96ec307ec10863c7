import FormReport.Exchange.Decode
import FormReport.Settings
import FormReport.Toml.Reader

set_option autoImplicit false

/- Settings and access rules as documents. -/
namespace FormReport

namespace AccessPolicy

def ofJson? (stored : Json) : Option AccessPolicy := do
  let fields ← stored.fields?
  let superRole ← Json.orDefault fields "super_role" Json.text? default.superRole
  let deniedRole ← Json.orDefault fields "denied_role" Json.text? default.deniedRole
  let defaultRoles ←
    Json.orDefault fields "default_roles" (Json.list? Json.text?) default.defaultRoles
  some { superRole, deniedRole, defaultRoles }

def toJson (policy : AccessPolicy) : Json :=
  .object [("super_role", .text policy.superRole), ("denied_role", .text policy.deniedRole),
    ("default_roles", Json.texts policy.defaultRoles)]

end AccessPolicy

/-- Rules in their normal shape, where both lists must be there. -/
def AccessRules.ofJson? (stored : Json) : Option AccessRules := do
  let fields ← stored.fields?
  let roles ← Json.required fields "roles" (Json.list? Json.text?)
  let users ← Json.required fields "users" (Json.list? Json.text?)
  some ⟨Text.textSet roles, Text.textSet users⟩

namespace UnresolvedPolicy

def name : UnresolvedPolicy → String
  | reject => "reject"
  | zero => "zero"

def words : List (String × UnresolvedPolicy) := [("reject", reject), ("zero", zero)]

end UnresolvedPolicy

namespace Settings

/-- Settings in a document; `isUnit` says which values stand for no content in its format. -/
def ofJson? (isUnit : Json → Bool) (stored : Json) : Option Settings := do
  let fields ← stored.fields?
  let access ← Json.orDefault fields "access" AccessPolicy.ofJson? default.access
  let unresolvedReference ← Json.orDefault fields "unresolved_reference"
    (Json.word? isUnit UnresolvedPolicy.words) default.unresolvedReference
  let integerSumMarkers ← Json.orDefault fields "integer_sum_markers" (Json.list? Json.text?)
    default.integerSumMarkers
  let developmentMode ←
    Json.orDefault fields "development_mode" Json.bool? default.developmentMode
  some { access, unresolvedReference, integerSumMarkers, developmentMode }

/-- Settings in a settings file. -/
def ofToml? (source : String) : Option Settings :=
  (Toml.read? source).bind (ofJson? Toml.isEmpty)

def toJson (settings : Settings) : Json :=
  .object [("access", settings.access.toJson),
    ("unresolved_reference", .text settings.unresolvedReference.name),
    ("integer_sum_markers", Json.texts settings.integerSumMarkers),
    ("development_mode", .bool settings.developmentMode)]

end Settings

end FormReport
