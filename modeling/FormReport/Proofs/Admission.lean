import FormReport.Proofs.Clean

set_option autoImplicit false

/- The rules of access are read again as they are kept: what one reading brings into shape the next
leaves alone, and the same requesters are let in. The one exception is a super role with blanks around
it that stands in for missing roles. -/
namespace FormReport

/-- A report with other rules of access. -/
def Report.withAccessRules (report : Report) (rules : Option Json) : Report :=
  { report with config := { report.config with accessRules := rules } }

namespace AccessRules

/-- The rules that are stored, before anything stands in for missing roles. -/
def given (stored : Option Json) : AccessRules := (stored.map ofStored).getD empty

/-- Whether roles and users are in the form in which cleaning leaves them. -/
structure IsClean (rules : AccessRules) : Prop where
  roles : Text.IsClean rules.roles
  users : Text.IsClean rules.users

theorem isClean_empty : empty.IsClean := ⟨⟨.nil, nofun, nofun⟩, ⟨.nil, nofun, nofun⟩⟩

theorem isFilled_integerText (value : ℤ) : Text.IsFilled (Json.integerText value) := by
  have digits := Number.isFilled_repr value.natAbs
  unfold Json.integerText
  split
  · exact Text.IsFilled.append (by decide) digits
  · exact digits

/-- The name of an entry has no blanks around it, be it that of a text or of a number. -/
theorem trim_entryName {item : Json} {name : String} (found : entryName? item = some name) :
    Text.trim name = name := by
  unfold entryName? at found
  split at found
  · cases found
    exact Text.trim_trim _
  · cases found
    rw [Json.write]
    exact Text.trim_of_isFilled (isFilled_integerText _)
  · cases found
    rw [Json.write]
    split
    · exact Text.trim_of_isFilled
        (Number.Layout.isFilled_text Number.dataLayout (by decide) (by decide) _)
    · exact Text.trim_of_isFilled (by decide)
  · cases found

theorem isClean_names (field : Option Json) : Text.IsClean (names field) := by
  unfold names
  split
  · refine Text.isClean_textSet fun name inside => ?_
    obtain ⟨item, _, found⟩ := List.mem_filterMap.mp inside
    exact trim_entryName found
  · exact isClean_empty.roles

theorem isClean_ofObject (stored : Json) : (ofObject stored).IsClean := by
  unfold ofObject
  split
  · exact ⟨isClean_names _, isClean_names _⟩
  · exact isClean_empty

theorem isClean_given (stored : Option Json) : (given stored).IsClean := by
  cases stored with
  | none => exact isClean_empty
  | some stored =>
    change (ofStored stored).IsClean
    unfold ofStored
    split
    · rename_i source
      cases Json.read? textDepth source with
      | none => exact isClean_empty
      | some inner => exact isClean_ofObject inner
    · exact isClean_ofObject _

/-- Texts that are kept in a list are cleaned when they are read. -/
theorem names_texts (texts : List String) : names (some (Json.texts texts)) = Text.clean texts := by
  have each : (texts.map Json.text).filterMap entryName? = texts.map Text.trim := by
    rw [List.filterMap_map, ← List.filterMap_eq_map]
    rfl
  change Text.textSet (((texts.map Json.text).filterMap entryName?).filter (· ≠ "")) = _
  rw [each, Text.clean]

theorem given_toJson (rules : AccessRules) :
    given (some rules.toJson) = ⟨Text.clean rules.roles, Text.clean rules.users⟩ := by
  rw [← names_texts, ← names_texts]
  rfl

end AccessRules

namespace AccessPolicy

open AccessRules

/-- What stands in for missing roles. -/
def standIn (policy : AccessPolicy) : List String :=
  if policy.fallbackRoles ≠ [] then policy.fallbackRoles else [policy.superRole]

theorem normalize_eq (policy : AccessPolicy) (stored : Option Json) :
    policy.normalize stored =
      ⟨if (given stored).roles ≠ [] then (given stored).roles else policy.standIn,
        (given stored).users⟩ := rfl

theorem standIn_ne_nil (policy : AccessPolicy) : policy.standIn ≠ [] := by
  unfold standIn
  split
  · assumption
  · exact List.cons_ne_nil _ _

/-- Whether what stands in for missing roles, if anything does, has no blanks around it. A super role
of blanks only counts as missing itself. -/
def IsSettled (policy : AccessPolicy) (stored : Option Json) : Prop :=
  (given stored).roles ≠ [] ∨ policy.fallbackRoles ≠ [] ∨
    Text.trim policy.superRole = policy.superRole ∨ Text.trim policy.superRole = ""

theorem clean_singleton (text : String) :
    Text.clean [text] = if Text.trim text = "" then [] else [Text.trim text] := by
  unfold Text.clean
  split
  · rename_i blank
    simp [blank, Text.textSet]
  · rename_i filled
    simp [filled, Text.textSet, Text.insertText]

/-- The roles in force when the roles in force are kept and read again. -/
theorem roles_again (policy : AccessPolicy) (stored : Option Json) :
    (policy.normalize (some (policy.normalize stored).toJson)).roles =
        (policy.normalize stored).roles ↔ policy.IsSettled stored := by
  rw [normalize_eq, given_toJson, normalize_eq]
  dsimp only
  by_cases some : (given stored).roles ≠ []
  · rw [if_pos some, (isClean_given stored).roles.clean_eq, if_pos some]
    exact iff_of_true rfl (.inl some)
  · rw [if_neg some]
    by_cases fallback : policy.fallbackRoles ≠ []
    · have isClean : Text.IsClean policy.standIn := by
        rw [standIn, if_pos fallback]
        exact Text.isClean_clean policy.defaultRoles
      rw [isClean.clean_eq, if_pos policy.standIn_ne_nil]
      exact iff_of_true rfl (.inr (.inl fallback))
    · have super : policy.standIn = [policy.superRole] := by rw [standIn, if_neg fallback]
      rw [super, clean_singleton, IsSettled, or_iff_right some, or_iff_right fallback]
      by_cases blank : Text.trim policy.superRole = ""
      · simp [blank]
      · simp [blank]

theorem normalize_again (policy : AccessPolicy) (stored : Option Json) :
    policy.normalize (some (policy.normalize stored).toJson) = policy.normalize stored ↔
      policy.IsSettled stored := by
  have users : (policy.normalize (some (policy.normalize stored).toJson)).users =
      (policy.normalize stored).users := by
    rw [normalize_eq, given_toJson, normalize_eq]
    exact (isClean_given stored).users.clean_eq
  rw [← roles_again]
  constructor
  · intro same
    rw [same]
  · intro roles
    exact AccessRules.mk.injEq .. ▸ ⟨roles, users⟩

/-- Rules that are the same in force let in the same requesters. -/
theorem canAccess_congr {policy : AccessPolicy} {first second : Option Json}
    (same : policy.normalize first = policy.normalize second) (report : Report)
    (requester : Requester) :
    policy.canAccess (report.withAccessRules first) requester =
      policy.canAccess (report.withAccessRules second) requester := by
  unfold canAccess Report.withAccessRules
  dsimp only
  rw [same]

/-- There is always a role in force. The rules in force are found again when they are kept, just when
what stands in for missing roles has no blanks around it, and then they let in whom the original rules
let in. -/
theorem normalize_settled (policy : AccessPolicy) (stored : Option Json) :
    let once := policy.normalize stored
    once.roles ≠ [] ∧ (policy.normalize (some once.toJson) = once ↔ policy.IsSettled stored) ∧
      (policy.IsSettled stored → ∀ (report : Report) (requester : Requester),
        policy.canAccess (report.withAccessRules (some once.toJson)) requester =
          policy.canAccess (report.withAccessRules stored) requester) := by
  refine ⟨?_, policy.normalize_again stored, ?_⟩
  · rw [normalize_eq]
    dsimp only
    split
    · assumption
    · exact policy.standIn_ne_nil
  · intro settled report requester
    exact canAccess_congr ((policy.normalize_again stored).mpr settled) report requester

/-- Roles that are missing are stood in for by those of the policy, and stay so. -/
theorem normalize_settled_missing :
    AccessPolicy.default.IsSettled none ∧
      AccessPolicy.default.normalize (some (AccessPolicy.default.normalize none).toJson) =
        AccessPolicy.default.normalize none ∧
      ∀ (report : Report) (requester : Requester),
        AccessPolicy.default.canAccess (report.withAccessRules
            (some (AccessPolicy.default.normalize none).toJson)) requester =
          AccessPolicy.default.canAccess (report.withAccessRules none) requester := by
  have settled : AccessPolicy.default.IsSettled none := .inr (.inl (by decide +kernel))
  obtain ⟨_, again, same⟩ := AccessPolicy.default.normalize_settled none
  exact ⟨settled, again.mpr settled, same settled⟩

/-- A policy without default roles, whose super role has blanks around it. -/
def rootPolicy : AccessPolicy := ⟨" root ", "guest", []⟩

def rootReport (rules : Option Json) : Report :=
  ⟨"stock", "Stock", "ann", { ReportConfig.empty with accessRules := rules }⟩

/-- The super role stands in as it is and loses its blanks when it is read again, so that a requester
is let in who was not. -/
theorem not_normalize_again :
    rootPolicy.normalize none = ⟨[" root "], []⟩ ∧
      rootPolicy.normalize (some (rootPolicy.normalize none).toJson) = ⟨["root"], []⟩ ∧
      rootPolicy.canAccess (rootReport none) ⟨"bob", "root", none⟩ = false ∧
      rootPolicy.canAccess (rootReport (some (rootPolicy.normalize none).toJson))
        ⟨"bob", "root", none⟩ = true := by
  refine ⟨rfl, ?_, ?_, ?_⟩ <;> decide +kernel

end AccessPolicy

end FormReport
