import FormReport.Proofs.Planning

set_option autoImplicit false

/- The names of output columns. Display columns, aggregates and calculations are named by three rules,
and each rule keeps its own names apart. A display column that takes in further fields of its name gains
keys only. -/
namespace FormReport

namespace Accessor

theorem derivations_withKey (accessor : Accessor) (key : String) :
    (accessor.withKey key).derivations = accessor.derivations := by
  unfold withKey
  split <;> rfl

theorem valueType_withKey (accessor : Accessor) (key : String) :
    (accessor.withKey key).valueType = accessor.valueType := by
  unfold withKey
  split <;> rfl

theorem mem_keys_withKey {accessor : Accessor} {key other : String} :
    other ∈ (accessor.withKey key).keys ↔ other ∈ accessor.keys ∨ other = key := by
  unfold withKey
  split
  · rename_i known
    refine (or_iff_left_of_imp ?_).symm
    rintro rfl
    exact known
  · simp

end Accessor

namespace GroupingKey

theorem columns_addKey (column key : String) (grouping : List GroupingKey) :
    (addKey column key grouping).map (·.column) = grouping.map (·.column) := by
  induction grouping with
  | nil => rfl
  | cons head rest ih =>
    unfold addKey
    split
    · rfl
    · rw [List.map_cons, List.map_cons, ih]

/-- A field has its column behind the others unless it shares one. -/
theorem columns_add {catalog : Catalog} {taken : List SelectedField} {field : SelectedField}
    {before after : List GroupingKey}
    (held : before.map (·.column) = (taken.map (·.column catalog)).eraseDups)
    (added : add catalog before field = .ok after) :
    after.map (·.column) = ((taken ++ [field]).map (·.column catalog)).eraseDups := by
  unfold add at added
  dsimp only at added
  have known : before.any (·.column = field.column catalog) = true ↔
      field.column catalog ∈ taken.map (·.column catalog) := by
    rw [← List.mem_eraseDups, ← held]
    simp
  rw [List.map_append, List.map_cons, List.map_nil, eraseDups_concat, ← held]
  split at added
  · rename_i shared
    cases added
    rw [columns_addKey, if_pos (known.mp shared)]
  · rename_i fresh
    obtain ⟨accessor, _, same⟩ := bind_eq_ok.mp added
    cases same
    rw [if_neg (fun seen => fresh (known.mpr seen)), List.map_append]
    rfl

/-- There is one display column for each name, at the place of the first field of that name. -/
theorem columns_ofFields {catalog : Catalog} {fields : List SelectedField}
    {grouping : List GroupingKey} (built : ofFields catalog fields = .ok grouping) :
    grouping.map (·.column) = (fields.map (·.column catalog)).eraseDups :=
  foldlM_keeps
    (fun taken grouping => grouping.map (·.column) = (taken.map (·.column catalog)).eraseDups)
    (fun _ _ _ _ => columns_add) [] fields [] grouping rfl built

/-- A column stays as it is, but the one that is shown under a name may gain a key. -/
theorem mem_addKey {column key : String} {grouping : List GroupingKey} {grouped : GroupingKey}
    (inside : grouped ∈ addKey column key grouping) :
    ∃ before ∈ grouping, grouped = before ∨ before.column = column ∧
      grouped = { before with accessor := before.accessor.withKey key } := by
  induction grouping with
  | nil => cases inside
  | cons first rest ih =>
    rw [addKey] at inside
    split at inside
    · rename_i same
      rcases List.mem_cons.mp inside with rfl | later
      · exact ⟨first, List.mem_cons_self, .inr ⟨same, rfl⟩⟩
      · exact ⟨grouped, List.mem_cons_of_mem _ later, .inl rfl⟩
    · rcases List.mem_cons.mp inside with rfl | later
      · exact ⟨grouped, List.mem_cons_self, .inl rfl⟩
      · obtain ⟨before, member, known⟩ := ih later
        exact ⟨before, List.mem_cons_of_mem _ member, known⟩

/-- A column has the type and the formulas that its name has in the forms. -/
theorem exists_ofName_of_ofFields {catalog : Catalog} {fields : List SelectedField}
    {grouping : List GroupingKey} (built : ofFields catalog fields = .ok grouping) :
    ∀ grouped ∈ grouping, ∃ declaredId accessor,
      Accessor.ofName catalog grouped.column declaredId = .ok accessor ∧
        accessor.derivations = grouped.accessor.derivations ∧
        accessor.valueType = grouped.accessor.valueType := by
  refine foldlM_keeps (fun _ (grouping : List GroupingKey) =>
    ∀ grouped ∈ grouping, ∃ declaredId accessor,
      Accessor.ofName catalog grouped.column declaredId = .ok accessor ∧
        accessor.derivations = grouped.accessor.derivations ∧
        accessor.valueType = grouped.accessor.valueType) ?_ [] fields [] grouping nofun built
  intro _ before field after held added grouped inside
  unfold add at added
  dsimp only at added
  split at added
  · cases added
    obtain ⟨earlier, known, rfl | ⟨_, rfl⟩⟩ := mem_addKey inside
    · exact held grouped known
    · rw [Accessor.derivations_withKey, Accessor.valueType_withKey]
      exact held earlier known
  · obtain ⟨accessor, resolved, same⟩ := bind_eq_ok.mp added
    cases same
    rcases List.mem_append.mp inside with earlier | own
    · exact held grouped earlier
    · rw [List.mem_singleton.mp own]
      exact ⟨_, accessor, resolved, rfl, rfl⟩

end GroupingKey

namespace AggregatePlan

theorem numbered_injective (base : String) :
    Function.Injective fun index : Nat => s!"{base}_{index + 2}" := by
  intro left right same
  change base ++ "_" ++ toString (left + 2) = base ++ "_" ++ toString (right + 2) at same
  have texts : (base ++ "_").toList ++ Nat.toDigits 10 (left + 2) =
      (base ++ "_").toList ++ Nat.toDigits 10 (right + 2) := by
    simpa only [String.toList_append, Nat.toString_eq_ofList_toDigits, String.toList_ofList] using
      congrArg String.toList same
  have values : left + 2 = right + 2 := by
    rw [← Nat.ofDigitChars_ten_toDigits (n := left + 2), List.append_cancel_left texts,
      Nat.ofDigitChars_ten_toDigits]
  omega

theorem numbered_ne (base : String) (index : Nat) : s!"{base}_{index + 2}" ≠ base := by
  intro same
  have lengths : (base ++ "_" ++ toString (index + 2)).length = base.length :=
    congrArg String.length same
  have mark : "_".length = 1 := rfl
  simp only [String.length_append] at lengths
  omega

/-- More names are tried than are used, so one of them is free. -/
theorem freeColumn_not_mem (used : List String) (base : String) :
    freeColumn used base ∉ used := by
  unfold freeColumn
  dsimp only
  cases found : (base :: (List.range used.length).map fun index => s!"{base}_{index + 2}").find?
      fun column => !used.contains column with
  | some column =>
    have free := List.find?_some found
    simpa using free
  | none =>
    -- All candidates would be used, and there is one more of them than there are used names.
    exfalso
    have occupied := List.find?_eq_none.mp found
    have distinct :
        (base :: (List.range used.length).map fun index => s!"{base}_{index + 2}").Nodup := by
      rw [List.nodup_cons]
      refine ⟨?_, List.nodup_range.map (numbered_injective base)⟩
      intro inside
      obtain ⟨index, _, same⟩ := List.mem_map.mp inside
      exact numbered_ne base index same
    have inside : base :: (List.range used.length).map (fun index => s!"{base}_{index + 2}") ⊆
        used := by
      intro column tried
      simpa using occupied column tried
    have bound := distinct.length_le_of_subset inside
    simp only [List.length_cons, List.length_map, List.length_range] at bound
    omega

/-- The column of an aggregation that no earlier one covers. -/
def newColumn (plan : AggregatePlan) (settings : Settings) (aggregation : Aggregation)
    (field : Field) (accessor : Accessor) : AggregateColumn where
  column := freeColumn (plan.columns.map (·.column))
    s!"{fieldName aggregation field}_{aggregation.function.suffix}"
  formId := aggregation.formId
  fieldId := aggregation.fieldId
  fieldName := fieldName aggregation field
  function := aggregation.function
  accessor := accessor
  roundsToInteger :=
    aggregation.function = .sum && settings.isIntegerQuantity (fieldName aggregation field)

theorem add_ok {catalog : Catalog} {settings : Settings} {plan after : AggregatePlan}
    {aggregation : Aggregation} (added : add catalog settings plan aggregation = .ok after) :
    (plan.covers aggregation = true ∧ after = { plan with aliasCount := plan.aliasCount + 1 }) ∨
      ∃ form field accessor, plan.covers aggregation = false ∧
        catalog.form? aggregation.formId = some form ∧
        form.fieldById? aggregation.fieldId = some field ∧
        Accessor.ofField catalog form field = .ok accessor ∧
        after = { plan with
          columns := plan.columns ++ [plan.newColumn settings aggregation field accessor] } := by
  unfold add at added
  cases covered : plan.covers aggregation with
  | true =>
    rw [covered] at added
    exact Or.inl ⟨rfl, (Except.ok.inj added).symm⟩
  | false =>
    rw [covered] at added
    cases inForm : catalog.form? aggregation.formId with
    | none =>
      rw [inForm] at added
      cases added
    | some form =>
      cases inField : form.fieldById? aggregation.fieldId with
      | none =>
        rw [inForm] at added
        dsimp only at added
        rw [inField] at added
        cases added
      | some field =>
        rw [inForm] at added
        dsimp only at added
        rw [inField] at added
        obtain ⟨accessor, resolved, same⟩ := bind_eq_ok.mp added
        exact Or.inr ⟨form, field, accessor, rfl, rfl, inField, resolved,
          (Except.ok.inj same).symm⟩

theorem nodup_columns {catalog : Catalog} {settings : Settings} {aggregations : List Aggregation}
    {plan : AggregatePlan} (built : ofAggregations catalog settings aggregations = .ok plan) :
    (plan.columns.map (·.column)).Nodup := by
  unfold ofAggregations at built
  refine foldlM_keeps (fun _ plan => (plan.columns.map (·.column)).Nodup) ?_ [] aggregations
    ⟨[], 0⟩ plan List.nodup_nil built
  intro _ before aggregation after distinct added
  rcases add_ok added with ⟨_, rfl⟩ | ⟨_, field, accessor, _, _, _, _, rfl⟩
  · exact distinct
  · have fresh : (before.newColumn settings aggregation field accessor).column ∉
        before.columns.map (·.column) := freeColumn_not_mem _ _
    simpa only [List.map_append, List.map_cons, List.map_nil, List.concat_eq_append] using
      distinct.concat fresh

end AggregatePlan

namespace CalculationScope

/-- What a calculation has become: a column of its trimmed name, with its own formula. -/
structure ColumnOf (scope : CalculationScope) (catalog : Catalog) (calculation : Calculation)
    (planned : CalculationColumn) : Prop where
  column : planned.column = Text.trim calculation.name
  source : planned.source = calculation.expression
  formula :
    (scope.formula catalog planned.column calculation.expression).result = .ok planned.formula

theorem nameFault?_eq_none {taken : List String} {name : String} (free : nameFault? taken name = none) :
    name ≠ "" ∧ name ∉ taken := by
  unfold nameFault? at free
  split at free
  · cases free
  · split at free
    · cases free
    · exact ⟨‹_›, ‹_›⟩

theorem columns_cons_ok {scope : CalculationScope} {catalog : Catalog} {taken : List String}
    {calculation : Calculation} {rest : List Calculation} {planned : List CalculationColumn}
    (success : (scope.columns catalog taken (calculation :: rest)).result = .ok planned) :
    ∃ column others, planned = column :: others ∧ scope.ColumnOf catalog calculation column ∧
      (column.column ≠ "" ∧ column.column ∉ taken) ∧
      (scope.columns catalog (taken ++ [column.column]) rest).result = .ok others := by
  unfold columns at success
  dsimp only at success
  cases fault : nameFault? taken (Text.trim calculation.name) with
  | some reason =>
    rw [fault] at success
    cases success
  | none =>
    simp only [fault, Traced.result_bind] at success
    obtain ⟨formula, lowered, success⟩ := bind_eq_ok.mp success
    obtain ⟨others, remaining, same⟩ := bind_eq_ok.mp success
    cases same
    exact ⟨_, others, rfl, ⟨rfl, rfl, lowered⟩, nameFault?_eq_none fault, remaining⟩

theorem columns_ok {scope : CalculationScope} {catalog : Catalog} {taken : List String}
    {calculations : List Calculation} {planned : List CalculationColumn}
    (success : (scope.columns catalog taken calculations).result = .ok planned) :
    List.Forall₂ (scope.ColumnOf catalog) calculations planned := by
  induction calculations generalizing taken planned with
  | nil =>
    cases success
    exact .nil
  | cons calculation rest ih =>
    obtain ⟨column, others, rfl, made, _, remaining⟩ := columns_cons_ok success
    exact .cons made (ih remaining)

/-- The names of calculations are not empty, are not taken, and differ from one another. -/
theorem fresh_of_columns {scope : CalculationScope} {catalog : Catalog} {taken : List String}
    {calculations : List Calculation} {planned : List CalculationColumn}
    (success : (scope.columns catalog taken calculations).result = .ok planned) :
    (∀ column ∈ planned.map (·.column), column ≠ "" ∧ column ∉ taken) ∧
      (planned.map (·.column)).Nodup := by
  induction calculations generalizing taken planned with
  | nil =>
    cases success
    exact ⟨nofun, List.nodup_nil⟩
  | cons calculation rest ih =>
    obtain ⟨column, others, rfl, _, fresh, remaining⟩ := columns_cons_ok success
    obtain ⟨later, distinct⟩ := ih remaining
    rw [List.map_cons]
    refine ⟨?_, List.nodup_cons.mpr ⟨fun again => ?_, distinct⟩⟩
    · intro name inside
      rcases List.mem_cons.mp inside with rfl | inside
      · exact fresh
      · exact ⟨(later name inside).1, fun known => (later name inside).2
          (List.mem_append_left _ known)⟩
    · exact (later _ again).2 (List.mem_append_right _ (List.mem_singleton_self _))

/-- Every calculation has a name that nothing before it has. -/
theorem nodup_columns_of_calculations {scope : CalculationScope} {catalog : Catalog}
    {taken : List String} {calculations : List Calculation} {planned : List CalculationColumn}
    (distinct : taken.Nodup)
    (success : (scope.columns catalog taken calculations).result = .ok planned) :
    (taken ++ planned.map (·.column)).Nodup := by
  induction calculations generalizing taken planned with
  | nil =>
    cases success
    simpa using distinct
  | cons calculation rest ih =>
    obtain ⟨column, others, rfl, _, ⟨_, fresh⟩, remaining⟩ := columns_cons_ok success
    have advanced : (taken ++ [column.column]).Nodup := by
      simpa only [List.concat_eq_append] using distinct.concat fresh
    rw [List.map_cons, List.append_cons]
    exact ih advanced remaining

end CalculationScope

namespace PlanStages.Accepted

variable {stages : PlanStages} {settings : Settings} {request : PlanRequest}

theorem nodup_groupingColumns (accepted : stages.Accepted settings request) :
    (stages.grouping.map (·.column)).Nodup := by
  rw [GroupingKey.columns_ofFields accepted.grouping]
  exact nodup_eraseDups _

/-- The only names that can meet are those of a display column and an aggregate. -/
theorem nodup_columns_iff (accepted : stages.Accepted settings request) :
    stages.columns.Nodup ↔
      ∀ column ∈ stages.grouping.map (·.column),
        column ∉ stages.aggregates.columns.map (·.column) := by
  constructor
  · intro distinct column displayed aggregated
    have taken := (List.nodup_append.mp distinct).1
    exact (List.nodup_append.mp taken).2.2 column displayed column aggregated rfl
  · intro apart
    apply CalculationScope.nodup_columns_of_calculations _ accepted.calculations
    refine List.nodup_append.mpr ⟨accepted.nodup_groupingColumns,
      AggregatePlan.nodup_columns accepted.aggregates, ?_⟩
    intro column displayed other aggregated same
    exact apart column displayed (same ▸ aggregated)

end PlanStages.Accepted

end FormReport
