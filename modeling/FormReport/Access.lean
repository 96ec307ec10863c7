import FormReport.Json.Reader
import FormReport.Json.Writer
import FormReport.Report
import FormReport.Text.Blank
import FormReport.Text.Set

set_option autoImplicit false

/- Who may see a report. Stored rules come in many shapes, so they are brought into one on every
read. -/
namespace FormReport

structure AccessPolicy where
  /-- Always let in. -/
  superRole : String
  /-- Never let in, whatever the rules of the report say. -/
  deniedRole : String
  defaultRoles : List String
  deriving DecidableEq

def AccessPolicy.default : AccessPolicy where
  superRole := "super_admin"
  deniedRole := "guest"
  defaultRoles := ["admin", "manager", "finance"]

/-- The roles and users that a report lets in. -/
structure AccessRules where
  /-- A set of texts, as the next. -/
  roles : List String
  users : List String
  deriving DecidableEq

namespace AccessRules

def empty : AccessRules := ⟨[], []⟩

/-- The name that an entry stands for: a text without the blanks around it, or a number. -/
def entryName? : Json → Option String
  | .text value => some (Text.trim value)
  | .integer value => some (Json.write (.integer value))
  | .decimal value => some (Json.write (.decimal value))
  | _ => none

/-- The names in a list; anything else holds none. -/
def names (field : Option Json) : List String :=
  match field with
  | some (.array items) => Text.textSet ((items.filterMap entryName?).filter (· ≠ ""))
  | _ => []

/-- The rules in an object; anything else holds none. -/
def ofObject (stored : Json) : AccessRules :=
  match stored with
  | .object fields => ⟨names (Keyed.get? fields "roles"), names (Keyed.get? fields "users")⟩
  | _ => empty

/-- The most lists and objects inside each other in rules that are stored as text. -/
def textDepth : Nat := 127

/-- The rules in an object or in the text of one. -/
def ofStored (stored : Json) : AccessRules :=
  match stored with
  | .text source => ((Json.read? textDepth source).map ofObject).getD empty
  | stored => ofObject stored

def toJson (rules : AccessRules) : Json :=
  .object [("roles", Json.texts rules.roles), ("users", Json.texts rules.users)]

end AccessRules

namespace AccessPolicy

/-- The roles that stand in for missing ones. -/
def fallbackRoles (policy : AccessPolicy) : List String :=
  Text.textSet ((policy.defaultRoles.map Text.trim).filter (· ≠ ""))

/-- The rules in force: without roles the default roles, and without those the super role. -/
def normalize (policy : AccessPolicy) (stored : Option Json) : AccessRules :=
  let rules := (stored.map AccessRules.ofStored).getD AccessRules.empty
  let roles :=
    if rules.roles ≠ [] then rules.roles
    else if policy.fallbackRoles ≠ [] then policy.fallbackRoles
    else [policy.superRole]
  { rules with roles }

def canAccess (policy : AccessPolicy) (report : Report) (requester : Requester) : Bool :=
  if requester.role = policy.deniedRole then false
  else if requester.role = policy.superRole ∨ requester.userId = report.creatorId then true
  else
    let rules := policy.normalize report.config.accessRules
    rules.roles.contains requester.role || rules.users.contains requester.userId

end AccessPolicy

end FormReport
