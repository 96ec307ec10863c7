import FormReport.Proofs.Aggregates
import FormReport.Proofs.Derivation
import FormReport.Proofs.FirstSeen

set_option autoImplicit false

/- Which aggregations become columns, and under which names. The first aggregation of a form, field and
function makes the column, and the others share it. A column is named for its field and its function,
with the least number behind the name that no column before has taken. Planning ends at the first
aggregation whose field cannot be read. -/
namespace FormReport

/-- What two aggregations have to agree in to share a column. -/
def Aggregation.target (aggregation : Aggregation) : String × String × AggregateFunction :=
  (aggregation.formId, aggregation.fieldId, aggregation.function)

namespace AggregateColumn

/-- The form, field and function of a column. -/
def target (planned : AggregateColumn) : String × String × AggregateFunction :=
  (planned.formId, planned.fieldId, planned.function)

/-- The name that a column has if no column before it has the name. -/
def baseName (planned : AggregateColumn) : String :=
  s!"{planned.fieldName}_{planned.function.suffix}"

/-- What a column has from the aggregation that it is made for: all but its name. -/
structure IsMadeFor (planned : AggregateColumn) (catalog : Catalog) (settings : Settings)
    (aggregation : Aggregation) : Prop where
  target : planned.target = aggregation.target
  read : ∃ form field, catalog.form? aggregation.formId = some form ∧
    form.fieldById? aggregation.fieldId = some field ∧
    planned.fieldName = AggregatePlan.fieldName aggregation field ∧
    Accessor.ofField catalog form field = .ok planned.accessor
  rounds : planned.roundsToInteger =
    (planned.function = .sum && settings.isIntegerQuantity planned.fieldName)

end AggregateColumn

namespace Aggregation

/-- How an aggregated field is read within its form, or why it cannot be. -/
def accessor (catalog : Catalog) (aggregation : Aggregation) : Except PlanError Accessor :=
  match catalog.form? aggregation.formId with
  | none => .error (.invalidIdentifier aggregation.formId aggregation.fieldId)
  | some form =>
    match form.fieldById? aggregation.fieldId with
    | none => .error (.invalidIdentifier aggregation.formId aggregation.fieldId)
    | some field => Accessor.ofField catalog form field

variable {catalog : Catalog} {aggregation other : Aggregation}

/-- The function does not come into how the field is read. -/
theorem accessor_congr (same : aggregation.target = other.target) :
    aggregation.accessor catalog = other.accessor catalog := by
  obtain ⟨form, field, _⟩ : aggregation.formId = other.formId ∧
      aggregation.fieldId = other.fieldId ∧ aggregation.function = other.function := by
    simpa only [target, Prod.mk.injEq] using same
  unfold accessor
  rw [form, field]

theorem accessor_of_known {form : FormFields} {field : Field}
    (listed : catalog.form? aggregation.formId = some form)
    (own : form.fieldById? aggregation.fieldId = some field) :
    aggregation.accessor catalog = Accessor.ofField catalog form field := by
  simp only [accessor, listed, own]

theorem accessor_of_unknown
    (unknown : catalog.field? aggregation.formId aggregation.fieldId = none) :
    aggregation.accessor catalog =
      .error (.invalidIdentifier aggregation.formId aggregation.fieldId) := by
  unfold accessor
  split
  · rfl
  · rename_i form listed
    split
    · rfl
    · rename_i field own
      rw [Catalog.field?, listed, Option.bind_some, own] at unknown
      cases unknown

/-- A field is unknown when its form is, or when the form has no field under the id. Whatever else keeps
a field from being read is a fault of a formula. -/
theorem accessor_eq_unknown_iff {formId fieldId : String} :
    aggregation.accessor catalog = .error (.invalidIdentifier formId fieldId) ↔
      aggregation.formId = formId ∧ aggregation.fieldId = fieldId ∧
        catalog.field? formId fieldId = none := by
  cases known : catalog.field? aggregation.formId aggregation.fieldId with
  | none =>
    rw [accessor_of_unknown known, Except.error.injEq, PlanError.invalidIdentifier.injEq]
    constructor
    · rintro ⟨rfl, rfl⟩
      exact ⟨rfl, rfl, known⟩
    · rintro ⟨form, field, _⟩
      exact ⟨form, field⟩
  | some field =>
    obtain ⟨form, listed, own⟩ := Option.bind_eq_some_iff.mp known
    rw [accessor_of_known listed own]
    refine iff_of_false ?_ ?_
    · intro failed
      rcases bind_eq_error.mp failed with unresolved | ⟨_, _, impossible⟩
      · exact FormFields.isOfFormula_of_derivation unresolved
      · cases impossible
    · rintro ⟨rfl, rfl, unknown⟩
      cases known.symm.trans unknown

end Aggregation

namespace AggregatePlan

/-- Whether a name is the first that is free of a name itself, the name with `_2`, with `_3` and so on. -/
def IsFirstFree (used : List String) (base column : String) : Prop :=
  column ∉ used ∧ (column = base ∨ base ∈ used ∧ ∃ number, 2 ≤ number ∧
    column = s!"{base}_{number}" ∧
      ∀ smaller, 2 ≤ smaller → smaller < number → s!"{base}_{smaller}" ∈ used)

theorem isFirstFree_freeColumn (used : List String) (base : String) :
    IsFirstFree used base (freeColumn used base) := by
  have free := freeColumn_not_mem used base
  refine ⟨free, ?_⟩
  unfold freeColumn at free ⊢
  dsimp only at free ⊢
  by_cases taken : base ∈ used
  · rw [List.find?_cons_of_neg (by simpa using taken), List.find?_map] at free ⊢
    cases found : (List.range used.length).find?
        ((fun column => !used.contains column) ∘ fun index => s!"{base}_{index + 2}") with
    | none =>
      rw [found] at free
      exact absurd taken free
    | some index =>
      obtain ⟨_, _, smallest⟩ := List.find?_range_eq_some.mp found
      refine .inr ⟨taken, index + 2, by omega, rfl, ?_⟩
      intro smaller least less
      obtain ⟨place, rfl⟩ := Nat.exists_eq_add_of_le' least
      simpa using smallest place (by omega)
  · rw [List.find?_cons_of_pos (by simpa using taken)]
    exact .inl rfl

/-- A column among columns, one of which is last, is this one or stands before it. -/
theorem split_concat {columns before after : List AggregateColumn} {last planned : AggregateColumn}
    (split : columns ++ [last] = before ++ planned :: after) :
    (before = columns ∧ planned = last) ∨ ∃ rest, columns = before ++ planned :: rest := by
  rcases List.eq_nil_or_concat after with rfl | ⟨rest, final, rfl⟩
  · obtain ⟨same, own⟩ := List.append_inj' split rfl
    exact .inl ⟨same.symm, (List.singleton_inj.mp own).symm⟩
  · rw [List.concat_eq_append, ← List.cons_append, ← List.append_assoc] at split
    exact .inr ⟨rest, (List.append_inj' split rfl).1⟩

/-- How the columns of a plan list some aggregations. -/
structure Lists (plan : AggregatePlan) (catalog : Catalog) (settings : Settings)
    (aggregations : List Aggregation) : Prop where
  /-- There is a column for the first aggregation of each form, field and function, in order. -/
  columns : List.Forall₂ (fun aggregation planned => planned.IsMadeFor catalog settings aggregation)
    (firstSeen Aggregation.target aggregations) plan.columns
  aliases : plan.aliasCount + plan.columns.length = aggregations.length
  names : ∀ before planned after, plan.columns = before ++ planned :: after →
    IsFirstFree (before.map (·.column)) planned.baseName planned.column
  readable : ∀ aggregation ∈ aggregations, ∃ accessor, aggregation.accessor catalog = .ok accessor

variable {catalog : Catalog} {settings : Settings} {aggregations : List Aggregation}
  {plan : AggregatePlan} {aggregation : Aggregation}

theorem covers_iff : plan.covers aggregation = true ↔
    ∃ planned ∈ plan.columns, planned.target = aggregation.target := by
  simp only [covers, List.any_eq_true, Bool.and_eq_true, decide_eq_true_eq, and_assoc,
    AggregateColumn.target, Aggregation.target, Prod.mk.injEq]

/-- The columns cover what has been asked for before and nothing else. -/
theorem Lists.covers_iff (lists : plan.Lists catalog settings aggregations) :
    plan.covers aggregation = true ↔ aggregation.target ∈ aggregations.map Aggregation.target := by
  have targets : (firstSeen Aggregation.target aggregations).map Aggregation.target =
      plan.columns.map AggregateColumn.target :=
    map_eq_of_forall₂ lists.columns fun _ _ made => made.target.symm
  rw [AggregatePlan.covers_iff, ← mem_map_firstSeen, targets, List.mem_map]

/-- An aggregation that repeats another is only counted. -/
theorem Lists.repeated (lists : plan.Lists catalog settings aggregations)
    (covered : plan.covers aggregation = true) :
    Lists { plan with aliasCount := plan.aliasCount + 1 } catalog settings
      (aggregations ++ [aggregation]) := by
  have known := lists.covers_iff.mp covered
  obtain ⟨columns, aliases, names, readable⟩ := lists
  refine ⟨?_, ?_, names, ?_⟩
  · rwa [firstSeen_concat, if_pos known]
  · rw [List.length_append, List.length_singleton, ← aliases]
    dsimp only
    omega
  · intro other inside
    rcases List.mem_append.mp inside with earlier | last
    · exact readable other earlier
    · obtain ⟨first, member, same⟩ := List.mem_map.mp known
      rw [List.mem_singleton.mp last, Aggregation.accessor_congr same.symm]
      exact readable first member

/-- Any other makes a column behind those that are there. -/
theorem Lists.added (lists : plan.Lists catalog settings aggregations)
    (fresh : plan.covers aggregation = false) {form : FormFields} {field : Field}
    {accessor : Accessor} (listed : catalog.form? aggregation.formId = some form)
    (own : form.fieldById? aggregation.fieldId = some field)
    (made : Accessor.ofField catalog form field = .ok accessor) :
    Lists { plan with
        columns := plan.columns ++ [plan.newColumn settings aggregation field accessor] }
      catalog settings (aggregations ++ [aggregation]) := by
  have unknown : aggregation.target ∉ aggregations.map Aggregation.target := by
    rw [← lists.covers_iff, fresh]
    exact Bool.false_ne_true
  obtain ⟨columns, aliases, names, readable⟩ := lists
  refine ⟨?_, ?_, ?_, ?_⟩
  · rw [firstSeen_concat, if_neg unknown]
    exact List.rel_append columns (.cons ⟨rfl, ⟨form, field, listed, own, rfl, made⟩, rfl⟩ .nil)
  · rw [List.length_append, List.length_append, ← aliases, List.length_singleton,
      List.length_singleton, Nat.add_assoc]
  · intro before planned after split
    rcases split_concat split with ⟨rfl, rfl⟩ | ⟨rest, earlier⟩
    · exact isFirstFree_freeColumn _ _
    · exact names before planned rest earlier
  · intro other inside
    rcases List.mem_append.mp inside with earlier | last
    · exact readable other earlier
    · rw [List.mem_singleton.mp last]
      exact ⟨accessor, (Aggregation.accessor_of_known listed own).trans made⟩

theorem lists_of_ofAggregations (built : ofAggregations catalog settings aggregations = .ok plan) :
    plan.Lists catalog settings aggregations := by
  refine foldlM_keeps (fun taken (plan : AggregatePlan) => plan.Lists catalog settings taken) ?_ []
    aggregations ⟨[], 0⟩ plan ⟨.nil, rfl, ?_, nofun⟩ built
  · intro taken before aggregation after held added
    rcases add_ok added with ⟨covered, rfl⟩ | ⟨form, field, accessor, fresh, listed, own, made, rfl⟩
    · exact held.repeated covered
    · exact held.added fresh listed own made
  · intro before planned after split
    cases before <;> cases split

theorem add_eq_error {fault : PlanError} : add catalog settings plan aggregation = .error fault ↔
    plan.covers aggregation = false ∧ aggregation.accessor catalog = .error fault := by
  unfold add Aggregation.accessor
  cases plan.covers aggregation with
  | true => simp
  | false =>
    cases catalog.form? aggregation.formId with
    | none => simp
    | some form =>
      dsimp only
      cases form.fieldById? aggregation.fieldId with
      | none => simp
      | some field => simp [bind_eq_error]

/-- Planning fails as the first aggregation does whose field cannot be read. -/
theorem ofAggregations_eq_error {fault : PlanError} :
    ofAggregations catalog settings aggregations = .error fault ↔
      ∃ before aggregation after, aggregations = before ++ aggregation :: after ∧
        (∀ earlier ∈ before, ∃ accessor, earlier.accessor catalog = .ok accessor) ∧
        aggregation.accessor catalog = .error fault := by
  -- Whatever comes first that cannot be read, all before it has been listed.
  have fails {aggregations : List Aggregation} {fault : PlanError}
      (failed : ofAggregations catalog settings aggregations = .error fault) :
      ∃ before aggregation after, aggregations = before ++ aggregation :: after ∧
        (∀ earlier ∈ before, ∃ accessor, earlier.accessor catalog = .ok accessor) ∧
        aggregation.accessor catalog = .error fault := by
    obtain ⟨before, aggregation, after, middle, split, reached, refused⟩ :=
      foldlM_eq_error.mp failed
    exact ⟨before, aggregation, after, split, (lists_of_ofAggregations reached).readable,
      (add_eq_error.mp refused).2⟩
  refine ⟨fails, ?_⟩
  rintro ⟨before, aggregation, after, rfl, readable, refused⟩
  cases reached : ofAggregations catalog settings before with
  | error error =>
    obtain ⟨_, broken, _, rfl, _, unread⟩ := fails reached
    obtain ⟨_, read⟩ := readable broken (List.mem_append_right _ List.mem_cons_self)
    cases read.symm.trans unread
  | ok middle =>
    refine foldlM_eq_error.mpr ⟨before, aggregation, after, middle, rfl, reached,
      add_eq_error.mpr ⟨?_, refused⟩⟩
    rw [Bool.eq_false_iff, ne_eq, (lists_of_ofAggregations reached).covers_iff, List.mem_map]
    rintro ⟨earlier, inside, same⟩
    obtain ⟨_, read⟩ := readable earlier inside
    cases read.symm.trans ((Aggregation.accessor_congr same).trans refused)

/-- Whether a column of a plan is the first that meets a condition. -/
def IsFirst (plan : AggregatePlan) (meets : AggregateColumn → Prop) (planned : AggregateColumn) :
    Prop :=
  meets planned ∧ ∃ before after, plan.columns = before ++ planned :: after ∧
    ∀ earlier ∈ before, ¬ meets earlier

theorem find?_columns_eq_some {meets : AggregateColumn → Prop} [DecidablePred meets]
    {planned : AggregateColumn} :
    plan.columns.find? (fun other => decide (meets other)) = some planned ↔
      plan.IsFirst meets planned := by
  rw [List.find?_eq_some_iff_append]
  simp only [decide_eq_true_eq, Bool.not_eq_true', decide_eq_false_iff_not]
  rfl

/-- A reference means the first column of a field with this id, else the first of a field that is called
so. -/
theorem column?_eq_some_iff {reference column : String} :
    plan.column? reference = some column ↔ ∃ planned, planned.column = column ∧
      (plan.IsFirst (·.fieldId = reference) planned ∨
        (∀ other ∈ plan.columns, other.fieldId ≠ reference) ∧
          plan.IsFirst (·.fieldName = reference) planned) := by
  have byId : plan.names.find? (·.fieldId = reference) =
      (plan.columns.find? (·.fieldId = reference)).map
        fun planned => ⟨planned.fieldId, planned.fieldName, planned.column⟩ := List.find?_map
  have byName : plan.names.find? (·.fieldName = reference) =
      (plan.columns.find? (·.fieldName = reference)).map
        fun planned => ⟨planned.fieldId, planned.fieldName, planned.column⟩ := List.find?_map
  simp only [← find?_columns_eq_some]
  rw [column?, AggregateName.column?, byId, byName, ← Option.map_or, Option.map_map,
    Option.map_eq_some_iff]
  simp only [Option.or_eq_some_iff, List.find?_eq_none, decide_eq_true_eq, and_comm]
  rfl

/-- The columns of a plan are those of the first aggregations of each form, field and function; their
names are the first free ones and all different; and the name of a field leads to its first column.
Planning is refused for an unknown field just when all that comes before can be read. -/
theorem planned_or_refused (catalog : Catalog) (settings : Settings)
    (aggregations : List Aggregation) :
    (∀ plan, ofAggregations catalog settings aggregations = .ok plan →
      plan.Lists catalog settings aggregations ∧ (plan.columns.map (·.column)).Nodup ∧
        ∀ reference column, plan.column? reference = some column ↔
          ∃ planned, planned.column = column ∧ (plan.IsFirst (·.fieldId = reference) planned ∨
            (∀ other ∈ plan.columns, other.fieldId ≠ reference) ∧
              plan.IsFirst (·.fieldName = reference) planned)) ∧
      ∀ formId fieldId,
        ofAggregations catalog settings aggregations = .error (.invalidIdentifier formId fieldId) ↔
          ∃ before aggregation after, aggregations = before ++ aggregation :: after ∧
            (∀ earlier ∈ before, ∃ accessor, earlier.accessor catalog = .ok accessor) ∧
            aggregation.formId = formId ∧ aggregation.fieldId = fieldId ∧
            catalog.field? formId fieldId = none := by
  refine ⟨fun plan built => ?_, fun formId fieldId => ?_⟩
  · exact ⟨lists_of_ofAggregations built, nodup_columns built, fun _ _ => column?_eq_some_iff⟩
  · simp only [ofAggregations_eq_error, Aggregation.accessor_eq_unknown_iff]

/-- Two forms whose fields share a name. -/
def weighings : Catalog :=
  [⟨"in", [.plain "w" "Weight" .number]⟩, ⟨"out", [.plain "x" "Weight" .number]⟩]

/-- The sums of both fields, the first of them once more under a label, and its average. -/
def weightSums : List Aggregation :=
  [⟨"in", "w", "", .sum⟩, ⟨"out", "x", "Weight", .sum⟩, ⟨"in", "w", "Mass", .sum⟩,
    ⟨"in", "w", "", .avg⟩]

def weightColumns : AggregatePlan where
  columns := [
    ⟨"Weight_sum", "in", "w", "Weight", .sum, ⟨["Weight", "w"], .number, []⟩, false⟩,
    ⟨"Weight_sum_2", "out", "x", "Weight", .sum, ⟨["Weight", "x"], .number, []⟩, false⟩,
    ⟨"Weight_avg", "in", "w", "Weight", .avg, ⟨["Weight", "w"], .number, []⟩, false⟩]
  aliasCount := 1

/-- The second sum is numbered and found by its id; behind all of them a field of the wrong form is
refused. -/
theorem planned_or_refused_weights :
    ofAggregations weighings .default weightSums = .ok weightColumns ∧
      weightColumns.Lists weighings .default weightSums ∧
      weightColumns.column? "x" = some "Weight_sum_2" ∧
      ofAggregations weighings .default (weightSums ++ [⟨"out", "w", "Weight", .sum⟩]) =
        .error (.invalidIdentifier "out" "w") := by
  have built : ofAggregations weighings .default weightSums = .ok weightColumns := by decide +kernel
  obtain ⟨planned, _⟩ := planned_or_refused weighings .default weightSums
  obtain ⟨_, refused⟩ :=
    planned_or_refused weighings .default (weightSums ++ [⟨"out", "w", "Weight", .sum⟩])
  obtain ⟨lists, _, found⟩ := planned weightColumns built
  refine ⟨built, lists, (found _ _).mpr ?_, (refused _ _).mpr ?_⟩
  · refine ⟨_, rfl, .inl ⟨rfl, weightColumns.columns.take 1, weightColumns.columns.drop 2, rfl, ?_⟩⟩
    decide
  · exact ⟨weightSums, ⟨"out", "w", "Weight", .sum⟩, [], rfl, lists.readable, rfl, rfl, rfl⟩

end AggregatePlan

end FormReport
