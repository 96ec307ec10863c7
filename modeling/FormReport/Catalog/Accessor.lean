import FormReport.Catalog.Basic
import FormReport.Error
import FormReport.Expression.Parser

set_option autoImplicit false

/- How a field is read out of a row. A derived field carries its formula, in which every name has
become an accessor of its own. -/
namespace FormReport

structure Accessor where
  /-- The first key with a value that is not blank wins. -/
  keys : List String
  valueType : ValueType
  /-- Per form the formula that gives the value where none is stored. -/
  derivations : List (String × Expression Accessor)

namespace Accessor

-- Accessors stand in formulas and formulas in accessors, so their equality is decided together.
mutual

def decEq (first second : Accessor) : Decidable (first = second) :=
  match first, second with
  | ⟨keys, valueType, derivations⟩, ⟨keys', valueType', derivations'⟩ =>
    have := decEqDerivations derivations derivations'
    decidable_of_iff (keys = keys' ∧ valueType = valueType' ∧ derivations = derivations')
      (by rw [mk.injEq])

def decEqDerivations (first second : List (String × Expression Accessor)) :
    Decidable (first = second) :=
  match first, second with
  | [], [] => .isTrue rfl
  | (formId, formula) :: rest, (formId', formula') :: rest' =>
    have := decEqFormula formula formula'
    have := decEqDerivations rest rest'
    decidable_of_iff ((formId = formId' ∧ formula = formula') ∧ rest = rest')
      (by rw [List.cons.injEq, Prod.mk.injEq])
  | [], _ :: _ | _ :: _, [] => .isFalse nofun

def decEqFormula (first second : Expression Accessor) : Decidable (first = second) :=
  match first, second with
  | .ref leaf, .ref leaf' =>
    have := decEq leaf leaf'
    decidable_of_iff (leaf = leaf') (by rw [Expression.ref.injEq])
  | .number value, .number value' =>
    decidable_of_iff (value = value') (by rw [Expression.number.injEq])
  | .neg inner, .neg inner' =>
    have := decEqFormula inner inner'
    decidable_of_iff (inner = inner') (by rw [Expression.neg.injEq])
  | .binary operator left right, .binary operator' left' right' =>
    have := decEqFormula left left'
    have := decEqFormula right right'
    decidable_of_iff (operator = operator' ∧ left = left' ∧ right = right')
      (by rw [Expression.binary.injEq])
  | .ref _, .number _ | .ref _, .neg _ | .ref _, .binary ..
  | .number _, .ref _ | .number _, .neg _ | .number _, .binary ..
  | .neg _, .ref _ | .neg _, .number _ | .neg _, .binary ..
  | .binary .., .ref _ | .binary .., .number _ | .binary .., .neg _ => .isFalse nofun

end

instance : DecidableEq Accessor := decEq

end Accessor

/-- A tree that is parsed, or what is wrong with its source. -/
def parseFormula (source : String) : Except PlanError (Expression String) :=
  (Expression.parse source).mapError fun fault => .invalidExpression source fault.message

namespace FormFields

/-- The field that a name in a formula means: a display name first, then an id. -/
def target? (form : FormFields) (token : String) : Option Field :=
  (form.fieldByName? token).or (form.fieldById? token)

/-- How many steps a chain of formulas can still take: one for each field that is not on the way,
and one from a field that is not of the form. -/
def unvisited (form : FormFields) (visiting : List String) (field : Field) : Nat :=
  (form.fields.filter fun other => !visiting.contains other.id).length +
    if field ∈ form.fields then 0 else 1

theorem mem_of_target? {form : FormFields} {token : String} {field : Field}
    (found : form.target? token = some field) : field ∈ form.fields := by
  simp only [target?, fieldByName?, fieldById?, Option.or_eq_some_iff] at found
  rcases found with (found | ⟨_, found⟩) | ⟨_, found⟩ <;> exact List.mem_of_find?_eq_some found

theorem unvisited_lt {form : FormFields} {visiting : List String} {field target : Field}
    (apart : field.id ∉ visiting) (inside : target ∈ form.fields) :
    form.unvisited (field.id :: visiting) target < form.unvisited visiting field := by
  have split (other : Field) :
      (!(field.id :: visiting).contains other.id) =
        (!decide (other.id = field.id) && !visiting.contains other.id) := by
    simp only [List.contains_cons, Bool.not_or]
    rfl
  have nested : (form.fields.filter fun other => !(field.id :: visiting).contains other.id) =
      (form.fields.filter fun other => !visiting.contains other.id).filter
        fun other => !decide (other.id = field.id) := by
    rw [List.filter_filter]
    exact List.filter_congr fun other _ => split other
  simp only [unvisited, inside, ↓reduceIte, nested]
  by_cases own : field ∈ form.fields
  · have free : field ∈ form.fields.filter fun other => !visiting.contains other.id := by
      simp [own, apart]
    have fewer := (List.length_filter_lt_length_iff_exists
      (p := fun other : Field => !decide (other.id = field.id))).mpr ⟨field, free, by simp⟩
    simpa only [own, ↓reduceIte, Nat.add_zero] using fewer
  · have atMost := List.length_filter_le (fun other : Field => !decide (other.id = field.id))
      (form.fields.filter fun other => !visiting.contains other.id)
    simp only [own, ↓reduceIte]
    omega

/-- The formula of a derived field with every name resolved within the form. `visiting` holds the
ids of the fields whose formulas are being resolved; a formula that comes back to one of them is
circular. -/
def derivation (catalog : Catalog) (form : FormFields) (visiting : List String) (field : Field) :
    Except PlanError (Option (Expression Accessor)) :=
  match field.formula? with
  | none => .ok none
  | some source =>
    if _circular : field.id ∈ visiting then
      .error (.invalidExpression source s!"circular reference through `{field.name}`")
    else do
      let tree ← parseFormula source
      let resolved ← tree.substitute fun token =>
        match _found : form.target? token with
        | none => .error (.unknownReference token)
        | some target => do
          let derived ← derivation catalog form (field.id :: visiting) target
          .ok (.ref {
            keys := catalog.keysInForm form.formId target.id target.name
            valueType := target.valueType
            derivations := derived.toList.map (form.formId, ·) })
      .ok (some resolved)
termination_by form.unvisited visiting field
decreasing_by exact unvisited_lt _circular (mem_of_target? _found)

end FormFields

namespace Accessor

/-- The accessor of a field within its form. -/
def ofField (catalog : Catalog) (form : FormFields) (field : Field) :
    Except PlanError Accessor := do
  let derived ← form.derivation catalog [] field
  .ok {
    keys := catalog.keysInForm form.formId field.id field.name
    valueType := field.valueType
    derivations := derived.toList.map (form.formId, ·) }

/-- The formula for a display name in one form, resolved without regard to the other forms. -/
def derivationIn (name : String) (form : FormFields) :
    Except PlanError (List (String × Expression Accessor)) :=
  match form.fieldByName? name with
  | none => .ok []
  | some field => do
    let derived ← form.derivation [form] [] field
    .ok (derived.toList.map (form.formId, ·))

/-- The accessor of a display name in all forms at once, typed as in the first form that has it. -/
def ofName (catalog : Catalog) (name : String) (declaredId : Option String) :
    Except PlanError Accessor := do
  let derivations ← catalog.mapM (derivationIn name)
  .ok {
    keys := (catalog.candidateKeys name ++ declaredId.toList).eraseDups
    valueType := ((catalog.findSome? (·.fieldByName? name)).map (·.valueType)).getD .text
    derivations := derivations.flatten }

end Accessor

end FormReport
