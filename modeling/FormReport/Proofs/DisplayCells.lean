import FormReport.Proofs.DisplayKeys
import FormReport.Proofs.Frame
import FormReport.Proofs.OwnFormula

set_option autoImplicit false

/- The cells of display columns. A column is read by the name under which it is displayed: its values
have the type of the first field of this name in any form, and where none is stored the formula of the
field of this name in the row's form counts. The field that was selected adds its id to the keys. -/
namespace FormReport

/-- The type under which the values of a display name are read. -/
def Catalog.typeOf (catalog : Catalog) (name : String) : ValueType :=
  ((catalog.findSome? (·.fieldByName? name)).map (·.valueType)).getD .text

namespace ValueType

/-- Whether values are read alike under two types: both are numbers, both are dates, or neither is. -/
def ReadsAs (valueType other : ValueType) : Prop :=
  (valueType = .number ↔ other = .number) ∧ (valueType = .date ↔ other = .date)

instance (valueType other : ValueType) : Decidable (valueType.ReadsAs other) :=
  inferInstanceAs (Decidable (_ ∧ _))

variable {valueType other : ValueType}

/-- Under a type of neither kind a value stays as it is. -/
theorem typed_of_plain (number : valueType ≠ .number) (date : valueType ≠ .date) (cell : Cell) :
    cell.typed valueType = cell := by
  cases valueType with
  | number => exact absurd rfl number
  | date => exact absurd rfl date
  | text => rfl
  | longText => rfl
  | derived => rfl

theorem ReadsAs.typed_eq (alike : valueType.ReadsAs other) (cell : Cell) :
    cell.typed valueType = cell.typed other := by
  obtain ⟨numbers, dates⟩ := alike
  by_cases number : valueType = .number
  · rw [number, numbers.mp number]
  · by_cases date : valueType = .date
    · rw [date, dates.mp date]
    · rw [typed_of_plain number date, typed_of_plain (mt numbers.mpr number) (mt dates.mpr date)]

/-- One text tells the types apart: it is a number under the one, a date under the other, and under the
rest it stays a text. -/
theorem readsAs_of_typed_eq (same : (Cell.text "0").typed valueType = (Cell.text "0").typed other) :
    valueType.ReadsAs other := by
  revert same
  cases valueType <;> cases other <;> decide +kernel

end ValueType

/-- Of lists that are joined, the first that has a key counts. -/
theorem Keyed.get?_flatten {α : Type} (parts : List (Keyed α)) (key : String) :
    Keyed.get? parts.flatten key = parts.findSome? (·.get? key) := by
  induction parts with
  | nil => rfl
  | cons first rest ih =>
    rw [List.flatten_cons, get?, List.lookup_append, List.findSome?_cons]
    change (first.get? key).or (Keyed.get? rest.flatten key) = _
    rw [ih]
    cases first.get? key <;> rfl

namespace Accessor

variable {catalog : Catalog} {form : FormFields} {field : Field} {name : String}
  {declaredId : Option String} {accessor : Accessor}

theorem valueType_of_ofName (made : ofName catalog name declaredId = .ok accessor) :
    accessor.valueType = catalog.typeOf name := by
  obtain ⟨_, _, same⟩ := bind_eq_ok.mp made
  cases same
  rfl

/-- A display name has a formula in a form only where the field of this name has one. -/
theorem exists_formula_of_mem {part : List (String × Expression Accessor)}
    (made : derivationIn name form = .ok part) {derivation : String × Expression Accessor}
    (inside : derivation ∈ part) :
    ∃ field, form.fieldByName? name = some field ∧ field.formula? ≠ none := by
  rcases FormFields.derivationIn_cases made with ⟨_, rfl⟩ | ⟨field, derived, named, resolved, rfl⟩
  · cases inside
  · refine ⟨field, named, fun plain => ?_⟩
    rcases FormFields.derivation_cases resolved with ⟨_, rfl⟩ | ⟨source, _, _, formula, _⟩
    · cases inside
    · cases plain.symm.trans formula

/-- In one form the formula for a display name is that of the field of this name. -/
theorem get?_of_named {part : List (String × Expression Accessor)}
    (made : derivationIn name form = .ok part) (named : form.fieldByName? name = some field)
    {formula : Expression Accessor} (resolved : form.derivation [form] [] field = .ok (some formula)) :
    Keyed.get? part form.formId = some formula := by
  rcases FormFields.derivationIn_cases made with ⟨none, _⟩ | ⟨found, derived, again, planned, rfl⟩
  · cases named.symm.trans none
  · cases named.symm.trans again
    cases resolved.symm.trans planned
    simp [FormFields.accessor, Keyed.get?_cons]

/-- So it is in the rows of the form when all forms are looked at, whatever other forms have. -/
theorem get?_derivations_of_named (made : ofName catalog name declaredId = .ok accessor)
    (listed : catalog.form? form.formId = some form) (named : form.fieldByName? name = some field)
    {formula : Expression Accessor} (resolved : form.derivation catalog [] field = .ok (some formula)) :
    Keyed.get? accessor.derivations form.formId = some formula := by
  obtain ⟨parts, derived, same⟩ := bind_eq_ok.mp made
  cases same
  have alone : Catalog.form? [form] form.formId = some form := by simp [Catalog.form?]
  rw [← FormFields.derivation_congr (alone.trans listed.symm)] at resolved
  have each := mapM_eq_ok.mp derived
  rw [Keyed.get?_flatten]
  clear made derived
  induction each with
  | nil => cases listed
  | @cons first part rest parts here _ ih =>
    rw [List.findSome?_cons]
    rw [Catalog.form?, List.find?_cons] at listed
    by_cases own : first.formId = form.formId
    · rw [decide_eq_true own] at listed
      cases listed
      rw [get?_of_named here named resolved]
    · rw [decide_eq_false own] at listed
      have apart : Keyed.get? part form.formId = none := by
        rw [Option.eq_none_iff_forall_ne_some]
        intro formula found
        exact own (formId_of_derivationIn here _ (Keyed.mem_of_get? found)).symm
      rw [apart]
      exact ih listed

/-- Without such a formula in the forms of an id there is none for their rows. -/
theorem get?_derivations_eq_none (made : ofName catalog name declaredId = .ok accessor)
    {formId : String} (plain : ∀ form ∈ catalog, form.formId = formId →
      ∀ field, form.fieldByName? name = some field → field.formula? = none) :
    Keyed.get? accessor.derivations formId = none := by
  rw [Option.eq_none_iff_forall_ne_some]
  intro formula found
  obtain ⟨form, known, part, resolved, inside⟩ :=
    exists_derivationIn_of_ofName made (Keyed.mem_of_get? found)
  obtain ⟨field, named, computed⟩ := exists_formula_of_mem resolved inside
  exact computed (plain form known (formId_of_derivationIn resolved _ inside).symm field named)

end Accessor

namespace GroupingKey

variable {catalog : Catalog} {form : FormFields} {field : Field} {key : GroupingKey}

/-- Whether a display column shows a value of a field under the type of the field, in rows of the form
that have no value under another key of the column. -/
def Types (key : GroupingKey) (form : FormFields) (field : Field) : Prop :=
  ∀ (row : StoredRow) (value : Json), row.formId = form.formId →
    row.stored? field.id = some value →
    (∀ other ∈ key.accessor.keys, other ≠ field.id → row.stored? other = none) →
    row.read key.accessor = row.typedAs field.id value field.valueType

/-- Whether a display column shows the value of a formula, or nothing without one, in rows of the form
that have no value under any key of the column. -/
def Computes (key : GroupingKey) (form : FormFields) (derived : Option (Expression Accessor)) :
    Prop :=
  ∀ row : StoredRow, row.formId = form.formId →
    (∀ other ∈ key.accessor.keys, row.stored? other = none) →
    row.read key.accessor =
      match derived with
      | none => .ok .missing
      | some formula => (formula.eval row.reading).map Cell.ofNumber?

theorem types_iff (inside : field.id ∈ key.accessor.keys) :
    key.Types form field ↔ key.accessor.valueType.ReadsAs field.valueType := by
  constructor
  · intro types
    -- A row with nothing but a text under the id of the field.
    have only (other : String) (_ : other ∈ key.accessor.keys) (apart : other ≠ field.id) :
        (StoredRow.lone form.formId field.id (.text "0")).stored? other = none :=
      (StoredRow.stored?_lone rfl ..).trans (if_neg apart)
    have shown := types (.lone form.formId field.id (.text "0")) (.text "0") rfl
      ((StoredRow.stored?_lone rfl ..).trans (if_pos rfl)) only
    rw [StoredRow.read_of_firstStored? (StoredRow.firstStored?_lone rfl inside)] at shown
    exact ValueType.readsAs_of_typed_eq (Except.ok.inj shown)
  · intro alike row value _ stored only
    have found := StoredRow.firstStored?_of_only inside stored only
    rw [StoredRow.read_of_firstStored? found, StoredRow.typedAs, StoredRow.typedAs]
    cases Cell.ofJson? value with
    | none => rfl
    | some cell => exact congrArg Except.ok (alike.typed_eq cell)

theorem computes_get? (key : GroupingKey) (form : FormFields) :
    key.Computes form (Keyed.get? key.accessor.derivations form.formId) := by
  intro row own nothing
  have none := StoredRow.firstStored?_eq_none_iff.mpr nothing
  rw [StoredRow.read_of_firstStored?_eq_none none, ← own]
  exact StoredRow.derived_eq row key.accessor.derivations

/-- Whether a column of a name is looked up under a key. -/
def Shows (grouping : List GroupingKey) (column key : String) : Prop :=
  ∃ grouped ∈ grouping, grouped.column = column ∧ key ∈ grouped.accessor.keys

theorem shows_cons {first : GroupingKey} {rest : List GroupingKey} {column key : String} :
    Shows (first :: rest) column key ↔
      first.column = column ∧ key ∈ first.accessor.keys ∨ Shows rest column key :=
  List.exists_mem_cons_iff ..

theorem Shows.addKey {grouping : List GroupingKey} {shown other : String}
    (shows : Shows grouping shown other) (column key : String) :
    Shows (addKey column key grouping) shown other := by
  induction grouping with
  | nil => exact shows
  | cons first rest ih =>
    rw [GroupingKey.addKey]
    rw [shows_cons] at shows
    split
    · rw [shows_cons]
      exact shows.imp_left (.imp_right fun known => Accessor.mem_keys_withKey.mpr (.inl known))
    · rw [shows_cons]
      exact shows.imp_right ih

theorem shows_addKey {grouping : List GroupingKey} {column : String}
    (shared : column ∈ grouping.map (·.column)) (key : String) :
    Shows (addKey column key grouping) column key := by
  induction grouping with
  | nil => cases shared
  | cons first rest ih =>
    rw [GroupingKey.addKey]
    split
    · rename_i same
      exact shows_cons.mpr (.inl ⟨same, Accessor.mem_keys_withKey.mpr (.inr rfl)⟩)
    · rename_i apart
      exact shows_cons.mpr
        (.inr (ih ((List.mem_cons.mp shared).resolve_left (Ne.symm apart))))

/-- Every field is looked for under its id in the column that it is displayed in. -/
theorem shows_of_ofFields {fields : List SelectedField} {grouping : List GroupingKey}
    (built : ofFields catalog fields = .ok grouping) :
    ∀ field ∈ fields, Shows grouping (field.column catalog) field.fieldId := by
  refine foldlM_keeps (fun taken (grouping : List GroupingKey) =>
    ∀ field ∈ taken, Shows grouping (field.column catalog) field.fieldId)
    ?_ [] fields [] grouping nofun built
  intro taken before field after held added other inside
  unfold add at added
  dsimp only at added
  split at added
  · rename_i shared
    cases added
    rcases List.mem_append.mp inside with earlier | last
    · exact (held other earlier).addKey ..
    · rw [List.mem_singleton.mp last]
      refine shows_addKey ?_ _
      simpa using shared
  · obtain ⟨accessor, resolved, same⟩ := bind_eq_ok.mp added
    cases same
    rcases List.mem_append.mp inside with earlier | last
    · obtain ⟨grouped, known, shows⟩ := held other earlier
      exact ⟨grouped, List.mem_append_left _ known, shows⟩
    · rw [List.mem_singleton.mp last]
      refine ⟨_, List.mem_append_right _ (List.mem_singleton_self _), rfl, ?_⟩
      exact (Accessor.mem_keys_ofName resolved).mpr (.inr rfl)

/-- How a display column shows a field of a form. The field's own type counts as far as the column has
one like it, and the formula that counts is that of the field with the name of the column. -/
structure Displays (key : GroupingKey) (catalog : Catalog) (form : FormFields) (field : Field) :
    Prop where
  keyed : field.id ∈ key.accessor.keys
  types_iff : key.Types form field ↔ (catalog.typeOf key.column).ReadsAs field.valueType
  computes : ∀ named formula, form.fieldByName? key.column = some named →
    form.derivation catalog [] named = .ok (some formula) → key.Computes form (some formula)
  lacks : (∀ other ∈ catalog, other.formId = form.formId →
    ∀ named, other.fieldByName? key.column = some named → named.formula? = none) →
    key.Computes form none

/-- A column that is made of its name in the forms shows every field under a key of its own in this
way. -/
theorem displays_of_ofFields {fields : List SelectedField} {grouping : List GroupingKey}
    (built : ofFields catalog fields = .ok grouping) (inside : key ∈ grouping)
    (listed : catalog.form? form.formId = some form) (keyed : field.id ∈ key.accessor.keys) :
    key.Displays catalog form field := by
  obtain ⟨_, accessor, made, formulas, typed⟩ := exists_ofName_of_ofFields built key inside
  have looked := computes_get? key form
  rw [← formulas] at looked
  refine ⟨keyed, ?_, ?_, ?_⟩
  · rw [types_iff keyed, ← typed, Accessor.valueType_of_ofName made]
  · intro named formula found resolved
    rwa [Accessor.get?_derivations_of_named made listed found resolved] at looked
  · intro plain
    rwa [Accessor.get?_derivations_eq_none made plain] at looked

end GroupingKey

namespace PlanRequest

/-- A selected field that is not aggregated is displayed in a column, with the type and the formula that
the name of the column has in the forms. Under a label that no field bears these are text and none,
whatever the field itself is. -/
theorem displays_of_compile {settings : Settings} {request : PlanRequest} {plan : Plan}
    {summary : PlanSummary} (compiled : (request.compile settings).result = .ok (plan, summary))
    {selected : SelectedField}
    (displayed : selected ∈ groupingFields request.selected request.aggregations) :
    selected.column request.catalog ∈ plan.groupingColumns ∧
      ∃ form field, request.catalog.form? selected.formId = some form ∧
        form.fieldById? selected.fieldId = some field ∧
        ∀ key ∈ plan.grouping, key.column = selected.column request.catalog →
          key.Displays request.catalog form field := by
  obtain ⟨stages, accepted, rfl⟩ := compile_ok compiled
  obtain ⟨shown, known, column, keyed⟩ :=
    GroupingKey.shows_of_ofFields accepted.grouping selected displayed
  obtain ⟨form, field, listed, own⟩ :=
    exists_of_checkSelected accepted.selected (List.mem_of_mem_filter displayed)
  have sameForm : form.formId = selected.formId := by simpa using List.find?_some listed
  have sameField : field.id = selected.fieldId := by simpa using List.find?_some own
  refine ⟨column ▸ List.mem_map_of_mem known, form, field, listed, own, ?_⟩
  intro key inside named
  have one : key = shown := List.inj_on_of_nodup_map accepted.nodup_groupingColumns inside known
    (named.trans column.symm)
  refine GroupingKey.displays_of_ofFields accepted.grouping inside (sameForm ▸ listed) ?_
  rw [one, sameField]
  exact keyed

/-- One of the fields of what comes in, under a label. -/
def weighing (fieldId label : String) : PlanRequest where
  config := { ReportConfig.empty with
    selectedForms := ["in"]
    selectedFields := [⟨"in", fieldId, label⟩] }
  catalog := [Accessor.weighedIn]
  site := none

def weighingPlan (key : GroupingKey) : Plan where
  mode := .raw
  formIds := ["in"]
  site := none
  filters := []
  grouping := [key]
  aggregates := []
  calculations := []
  sort := []
  columns := [key.column]

def weighingSummary : PlanSummary where
  mode := .raw
  forms := 1
  grouping := 1
  aggregates := 0
  calculations := 0
  filters := 0
  aliases := 0
  ignoredSorts := 0

def weightField : Field := .plain "w" "Weight" .number

def doubleField : Field := .computed "d" "Double" "Weight + Weight"

def doubleFormula : Expression Accessor :=
  .binary .add (.ref Accessor.weightIn) (.ref Accessor.weightIn)

/-- Under their own names a weight is a number, and its double is computed. -/
theorem displays_of_compile_weighing :
    (((weighing "w" "").compile .default).result =
        .ok (weighingPlan ⟨"Weight", Accessor.weightIn⟩, weighingSummary) ∧
      GroupingKey.Types ⟨"Weight", Accessor.weightIn⟩ Accessor.weighedIn weightField) ∧
    ((weighing "d" "").compile .default).result =
        .ok (weighingPlan ⟨"Double", Accessor.doubleIn⟩, weighingSummary) ∧
      GroupingKey.Computes ⟨"Double", Accessor.doubleIn⟩ Accessor.weighedIn (some doubleFormula) := by
  have weight : ((weighing "w" "").compile .default).result =
      .ok (weighingPlan ⟨"Weight", Accessor.weightIn⟩, weighingSummary) := by decide +kernel
  have double : ((weighing "d" "").compile .default).result =
      .ok (weighingPlan ⟨"Double", Accessor.doubleIn⟩, weighingSummary) := by decide +kernel
  refine ⟨⟨weight, ?_⟩, double, ?_⟩
  · obtain ⟨_, form, field, listed, own, shows⟩ := displays_of_compile weight List.mem_cons_self
    cases listed
    cases own
    exact (shows _ List.mem_cons_self (by decide +kernel)).types_iff.mpr (by decide)
  · obtain ⟨_, form, field, listed, own, shows⟩ := displays_of_compile double List.mem_cons_self
    cases listed
    cases own
    exact (shows _ List.mem_cons_self (by decide +kernel)).computes doubleField doubleFormula
      (by decide +kernel) (by decide +kernel)

/-- Under labels of their own the weight stays a text, and its double is not computed. -/
theorem not_displays_of_compile :
    (((weighing "w" "Mass").compile .default).result =
        .ok (weighingPlan ⟨"Mass", ⟨["Mass", "w"], .text, []⟩⟩, weighingSummary) ∧
      ¬ GroupingKey.Types ⟨"Mass", ⟨["Mass", "w"], .text, []⟩⟩ Accessor.weighedIn weightField) ∧
    ((weighing "d" "Twice").compile .default).result =
        .ok (weighingPlan ⟨"Twice", ⟨["Twice", "d"], .text, []⟩⟩, weighingSummary) ∧
      Accessor.weighedIn.derivation [Accessor.weighedIn] [] doubleField = .ok (some doubleFormula) ∧
      ¬ GroupingKey.Computes ⟨"Twice", ⟨["Twice", "d"], .text, []⟩⟩ Accessor.weighedIn
        (some doubleFormula) := by
  refine ⟨⟨by decide +kernel, fun types => ?_⟩, by decide +kernel, by decide +kernel, fun computes => ?_⟩
  · exact absurd ((GroupingKey.types_iff (by decide)).mp types) (by decide)
  · have nothing : ∀ other ∈ ["Twice", "d"],
        (StoredRow.lone "in" "w" (.text "5")).stored? other = none := by decide
    have shown := computes (.lone "in" "w" (.text "5")) rfl nothing
    revert shown
    decide +kernel

end PlanRequest

end FormReport
