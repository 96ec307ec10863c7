import FormReport.Proofs.Aggregates
import FormReport.Proofs.Derivation
import FormReport.Proofs.Planning
import FormReport.Proofs.StorageKeys

set_option autoImplicit false

/- The names by which calculations of a grouped report find its columns. A report may give a field a
label, and then the column is found by the label: an aggregated field also by its id, a selected one by
nothing else. A field of the catalog that is found by no name is refused, as if it were neither
aggregated nor grouped by. -/
namespace FormReport

section NeverUngrouped

variable {α β σ : Type}

/-- Whether a step of planning never fails for a name that is not grouped by. -/
def NeverUngrouped (result : Except PlanError α) : Prop :=
  ∀ calculation name, result ≠ .error (.ungroupedReference calculation name)

theorem neverUngrouped_iff {result : Except PlanError α} : NeverUngrouped result ↔
    Never (fun error => ∃ calculation name, error = .ungroupedReference calculation name) result := by
  constructor
  · rintro never _ ⟨calculation, name, rfl⟩
    exact never calculation name
  · exact fun never calculation name => never _ ⟨calculation, name, rfl⟩

theorem neverUngrouped_ok (value : α) : NeverUngrouped (.ok value) := nofun

theorem NeverUngrouped.of_bind {first : Except PlanError α} {next : α → Except PlanError β}
    (never : NeverUngrouped first) {calculation name : String}
    (failed : first >>= next = .error (.ungroupedReference calculation name)) :
    ∃ value, first = .ok value ∧ next value = .error (.ungroupedReference calculation name) :=
  (neverUngrouped_iff.mp never).of_bind ⟨calculation, name, rfl⟩ failed

theorem NeverUngrouped.bind {first : Except PlanError α} {next : α → Except PlanError β}
    (never : NeverUngrouped first) (after : ∀ value, NeverUngrouped (next value)) :
    NeverUngrouped (first >>= next) :=
  neverUngrouped_iff.mpr
    ((neverUngrouped_iff.mp never).bind fun value => neverUngrouped_iff.mp (after value))

theorem NeverUngrouped.mapM {work : α → Except PlanError β} (inputs : List α)
    (never : ∀ input, NeverUngrouped (work input)) : NeverUngrouped (inputs.mapM work) :=
  neverUngrouped_iff.mpr (.mapM inputs fun input => neverUngrouped_iff.mp (never input))

theorem NeverUngrouped.foldlM {step : σ → α → Except PlanError σ} (inputs : List α) (state : σ)
    (never : ∀ state input, NeverUngrouped (step state input)) :
    NeverUngrouped (inputs.foldlM step state) :=
  neverUngrouped_iff.mpr
    (.foldlM inputs state fun state input => neverUngrouped_iff.mp (never state input))

end NeverUngrouped

theorem FormFields.neverUngrouped_derivation (catalog : Catalog) (form : FormFields)
    (visiting : List String) (field : Field) :
    NeverUngrouped (form.derivation catalog visiting field) := by
  intro calculation name failed
  exact isOfFormula_of_derivation failed

namespace Accessor

theorem neverUngrouped_ofField (catalog : Catalog) (form : FormFields) (field : Field) :
    NeverUngrouped (ofField catalog form field) :=
  (form.neverUngrouped_derivation catalog [] field).bind fun _ => neverUngrouped_ok _

theorem neverUngrouped_ofName (catalog : Catalog) (name : String) (declaredId : Option String) :
    NeverUngrouped (ofName catalog name declaredId) := by
  refine (NeverUngrouped.mapM catalog fun form => ?_).bind fun _ => neverUngrouped_ok _
  unfold derivationIn
  split
  · exact neverUngrouped_ok _
  · exact (form.neverUngrouped_derivation _ _ _).bind fun _ => neverUngrouped_ok _

end Accessor

theorem neverUngrouped_checkSelected (catalog : Catalog) (selected : List SelectedField) :
    NeverUngrouped (checkSelected catalog selected) := by
  unfold checkSelected
  split <;> exact nofun

theorem AggregatePlan.neverUngrouped_ofAggregations (catalog : Catalog) (settings : Settings)
    (aggregations : List Aggregation) :
    NeverUngrouped (ofAggregations catalog settings aggregations) := by
  refine NeverUngrouped.foldlM aggregations (⟨[], 0⟩ : AggregatePlan) fun plan aggregation => ?_
  unfold add
  split
  · exact neverUngrouped_ok _
  · split
    · exact nofun
    · split
      · exact nofun
      · exact (Accessor.neverUngrouped_ofField _ _ _).bind fun _ => neverUngrouped_ok _

theorem GroupingKey.neverUngrouped_ofFields (catalog : Catalog) (fields : List SelectedField) :
    NeverUngrouped (ofFields catalog fields) := by
  refine NeverUngrouped.foldlM fields [] fun grouping field => ?_
  unfold add
  dsimp only
  split
  · exact neverUngrouped_ok _
  · exact (Accessor.neverUngrouped_ofName _ _ _).bind fun _ => neverUngrouped_ok _

theorem RowFilter.neverUngrouped_ofFilter (catalog : Catalog) (filter : ReportFilter) :
    NeverUngrouped (ofFilter catalog filter) := by
  unfold ofFilter
  split
  · exact nofun
  · exact (Accessor.neverUngrouped_ofName _ _ _).bind fun _ => neverUngrouped_ok _

/-- A field is looked up by its id or by its display name. -/
theorem Catalog.id_or_name_of_lookup? {catalog : Catalog} {reference formId : String} {field : Field}
    (found : catalog.lookup? reference = some (formId, field)) :
    field.id = reference ∨ field.name = reference := by
  rcases Option.or_eq_some_iff.mp found with byId | ⟨_, byName⟩
  · obtain ⟨form, _, hit⟩ := exists_of_find? byId
    have same := List.find?_some hit
    exact .inl (of_decide_eq_true same)
  · obtain ⟨form, _, hit⟩ := exists_of_find? byName
    rcases Option.or_eq_some_iff.mp hit with active | ⟨_, retired⟩
    · have same := List.find?_some active
      rw [Bool.and_eq_true, decide_eq_true_eq] at same
      exact .inr same.1
    · have same := List.find?_some retired
      exact .inr (of_decide_eq_true same)

theorem AggregateName.column?_eq_none_iff {names : List AggregateName} {reference : String} :
    column? names reference = none ↔
      ¬ ∃ named ∈ names, named.fieldId = reference ∨ named.fieldName = reference := by
  rw [column?, Option.map_eq_none_iff, Option.or_eq_none_iff, List.find?_eq_none, List.find?_eq_none]
  simp only [decide_eq_true_eq, not_exists, not_and, not_or, forall_and]

theorem AggregateName.of_column? {names : List AggregateName} {reference column : String}
    (found : column? names reference = some column) : ∃ named ∈ names,
      (named.fieldId = reference ∨ named.fieldName = reference) ∧ named.column = column := by
  obtain ⟨named, hit, same⟩ := Option.map_eq_some_iff.mp found
  rcases Option.or_eq_some_iff.mp hit with byId | ⟨_, byName⟩
  · have known := List.find?_some byId
    exact ⟨named, List.mem_of_find?_eq_some byId, .inl (of_decide_eq_true known), same⟩
  · have known := List.find?_some byName
    exact ⟨named, List.mem_of_find?_eq_some byName, .inr (of_decide_eq_true known), same⟩

namespace CalculationScope

/-- Whether a leaf is a column to which a name of a field leads: that of an aggregated field with this id
or label, or the display column of the name or of the field's display name. -/
def LeadsTo (scope : CalculationScope) (name : String) (field : Field) : Leaf Accessor → Prop
  | .aggregate column => ∃ named ∈ scope.aggregates,
      (named.fieldId = name ∨ named.fieldName = name) ∧ named.column = column
  | .grouping column => (∃ key ∈ scope.grouping, key.column = column) ∧
      (column = name ∨ column = field.name)
  | .raw _ => False

/-- Whether a name of a field is found among the columns: it is the id or the label of an aggregated
field, or it or the display name of the field is a display column. -/
def Finds (scope : CalculationScope) (name : String) (field : Field) : Prop :=
  (∃ named ∈ scope.aggregates, named.fieldId = name ∨ named.fieldName = name) ∨
    ∃ key ∈ scope.grouping, key.column = name ∨ key.column = field.name

variable {scope : CalculationScope} {catalog : Catalog} {calculation name formId : String}
  {field : Field}

theorem groupingKey?_eq_none_iff {column : String} :
    scope.groupingKey? column = none ↔ ¬ ∃ key ∈ scope.grouping, key.column = column := by
  rw [groupingKey?, List.find?_eq_none]
  simp only [decide_eq_true_eq, not_exists, not_and]

theorem of_groupingKey? {column : String} {key : GroupingKey}
    (found : scope.groupingKey? column = some key) : key ∈ scope.grouping ∧ key.column = column := by
  have known := List.find?_some found
  exact ⟨List.mem_of_find?_eq_some found, of_decide_eq_true known⟩

theorem finds_iff : scope.Finds name field ↔ AggregateName.column? scope.aggregates name ≠ none ∨
    scope.groupingKey? name ≠ none ∨ scope.groupingKey? field.name ≠ none := by
  rw [Finds, ne_eq, ne_eq, ne_eq, AggregateName.column?_eq_none_iff, groupingKey?_eq_none_iff,
    groupingKey?_eq_none_iff, not_not, not_not, not_not, ← exists_or]
  simp only [and_or_left]

/-- In the grouped modes a name of a field leads to a column, or else it is refused. -/
theorem groupedLeaf?_of_lookup? (scope : CalculationScope) (calculation : String)
    (found : catalog.lookup? name = some (formId, field)) :
    (scope.Finds name field ∧ ∃ leaf, scope.LeadsTo name field leaf ∧
      scope.groupedLeaf? catalog calculation name = .ok (some leaf)) ∨
    (¬ scope.Finds name field ∧
      scope.groupedLeaf? catalog calculation name =
        .error (.ungroupedReference calculation name)) := by
  rw [finds_iff]
  unfold groupedLeaf?
  rw [found]
  cases aggregated : AggregateName.column? scope.aggregates name with
  | some column =>
    exact .inl ⟨.inl nofun, .aggregate column, AggregateName.of_column? aggregated, rfl⟩
  | none =>
    cases shown : scope.groupingKey? name with
    | some key =>
      obtain ⟨inside, same⟩ := of_groupingKey? shown
      exact .inl ⟨.inr (.inl nofun), .grouping key.column, ⟨⟨key, inside, rfl⟩, .inl same⟩, rfl⟩
    | none =>
      dsimp only
      cases called : scope.groupingKey? field.name with
      | some key =>
        obtain ⟨inside, same⟩ := of_groupingKey? called
        exact .inl ⟨.inr (.inr nofun), .grouping key.column, ⟨⟨key, inside, rfl⟩, .inr same⟩, rfl⟩
      | none => exact .inr ⟨by simp, rfl⟩

theorem resolve_of_lookup? (grouped : scope.mode.isGrouped = true) (calculation : String)
    (found : catalog.lookup? name = some (formId, field)) :
    (scope.Finds name field ∧ ∃ leaf, scope.LeadsTo name field leaf ∧
      (scope.resolve catalog calculation name).result = .ok (.ref leaf)) ∨
    (¬ scope.Finds name field ∧
      (scope.resolve catalog calculation name).result =
        .error (.ungroupedReference calculation name)) := by
  rw [result_resolve, leaf?, if_pos grouped]
  rcases groupedLeaf?_of_lookup? scope calculation found with
    ⟨finds, leaf, column, known⟩ | ⟨lost, refused⟩
  · exact .inl ⟨finds, leaf, column, by rw [known]; rfl⟩
  · exact .inr ⟨lost, by rw [refused]; rfl⟩

/-- A name that is refused as ungrouped is a name of a field that is found among no columns. -/
theorem of_refuses_ungrouped {column reference : String}
    (refused : scope.Refuses catalog calculation name (.ungroupedReference column reference)) :
    scope.mode.isGrouped = true ∧ column = calculation ∧ reference = name ∧
      ∃ formId field, catalog.lookup? name = some (formId, field) ∧ ¬ scope.Finds name field := by
  rcases refused with refused | ⟨_, _, impossible⟩
  · unfold leaf? at refused
    split at refused
    · rename_i grouped
      cases found : catalog.lookup? name with
      | none =>
        unfold groupedLeaf? at refused
        rw [found] at refused
        split at refused
        · cases refused
        · split at refused <;> cases refused
      | some hit =>
        obtain ⟨formId, field⟩ := hit
        rcases groupedLeaf?_of_lookup? scope calculation found with
          ⟨_, leaf, _, known⟩ | ⟨lost, known⟩
        · rw [known] at refused
          cases refused
        · rw [known] at refused
          cases refused
          exact ⟨grouped, rfl, rfl, formId, field, rfl, lost⟩
    · unfold rawLeaf? at refused
      split at refused
      · cases refused
      · split at refused
        · cases refused
        · exact absurd refused
            (((Accessor.neverUngrouped_ofName _ _ _).bind fun _ => neverUngrouped_ok _) _ _)
  · cases impossible

/-- When the calculations are refused for an ungrouped name, it stands in one of them. -/
theorem of_columns_eq_ungrouped {taken : List String} {calculations : List Calculation}
    {column reference : String} (failed : (scope.columns catalog taken calculations).result =
      .error (.ungroupedReference column reference)) :
    ∃ calculation ∈ calculations, Text.trim calculation.name = column ∧
      ∃ tree, Expression.parse calculation.expression = .ok tree ∧ reference ∈ tree.leaves ∧
        scope.mode.isGrouped = true ∧ ∃ formId field,
          catalog.lookup? reference = some (formId, field) ∧ ¬ scope.Finds reference field := by
  induction calculations generalizing taken with
  | nil => cases failed
  | cons calculation rest ih =>
    unfold columns at failed
    dsimp only at failed
    split at failed
    · cases failed
    · rw [Traced.result_bind] at failed
      rcases bind_eq_error.mp failed with lowered | ⟨formula, _, failed⟩
      · rcases formula_eq_error.mp lowered with ⟨_, _, impossible⟩ |
          ⟨tree, before, name, after, parsed, split, _, refused⟩
        · cases impossible
        · obtain ⟨grouped, rfl, rfl, found⟩ := of_refuses_ungrouped refused
          refine ⟨calculation, List.mem_cons_self, rfl, tree, parsed, ?_, grouped, found⟩
          rw [split]
          exact List.mem_append_right _ List.mem_cons_self
      · rw [Traced.result_bind] at failed
        rcases bind_eq_error.mp failed with remaining | ⟨others, _, impossible⟩
        · obtain ⟨other, inside, found⟩ := ih remaining
          exact ⟨other, List.mem_cons_of_mem _ inside, found⟩
        · cases impossible

end CalculationScope

/-- Whether an aggregation is the first of its form, field and function. The others share its column,
and their labels are passed over. -/
def Aggregation.Leads (aggregation : Aggregation) (aggregations : List Aggregation) : Prop :=
  aggregations.find? (fun other => aggregation.formId = other.formId &&
    aggregation.fieldId = other.fieldId && aggregation.function = other.function) = some aggregation

theorem AggregateColumn.standsFor_eq {planned : AggregateColumn} {aggregation : Aggregation}
    (stands : planned.standsFor aggregation = true) :
    planned.standsFor = fun other => aggregation.formId = other.formId &&
      aggregation.fieldId = other.fieldId && aggregation.function = other.function := by
  obtain ⟨form, field, function⟩ := standsFor_iff.mp stands
  funext other
  rw [standsFor, form, field, function]

theorem Aggregation.exists_leads {aggregation : Aggregation} {aggregations : List Aggregation}
    (inside : aggregation ∈ aggregations) : ∃ first : Aggregation, first.Leads aggregations ∧
      first.formId = aggregation.formId ∧ first.fieldId = aggregation.fieldId := by
  cases found : aggregations.find? (fun other => aggregation.formId = other.formId &&
      aggregation.fieldId = other.fieldId && aggregation.function = other.function) with
  | none => exact absurd (List.find?_eq_none.mp found aggregation inside) (by simp)
  | some first =>
    have same := List.find?_some found
    simp only [Bool.and_eq_true, decide_eq_true_eq] at same
    obtain ⟨⟨form, field⟩, function⟩ := same
    refine ⟨first, ?_, form.symm, field.symm⟩
    rw [form, field, function] at found
    exact found

/-- The ids and names of a plan are those of the aggregations that lead. -/
theorem AggregatePlan.exists_named_iff {catalog : Catalog} {settings : Settings}
    {aggregations : List Aggregation} {plan : AggregatePlan}
    (built : ofAggregations catalog settings aggregations = .ok plan) {name : String} :
    (∃ named ∈ plan.names, named.fieldId = name ∨ named.fieldName = name) ↔
      ∃ aggregation : Aggregation, aggregation.Leads aggregations ∧
        (aggregation.fieldId = name ∨ ∃ field,
          catalog.field? aggregation.formId aggregation.fieldId = some field ∧
            fieldName aggregation field = name) := by
  have represents := represents_of_ofAggregations built
  constructor
  · rintro ⟨_, inside, names⟩
    obtain ⟨planned, known, rfl⟩ := List.mem_map.mp inside
    obtain ⟨first, field, origin⟩ := represents.sound planned known
    have stands := List.find?_some origin.earliest
    have leads := origin.earliest
    rw [AggregateColumn.standsFor_eq stands] at leads
    refine ⟨first, leads, names.imp (fun byId => ?_) fun byName => ⟨field, origin.known, ?_⟩⟩
    · exact (AggregateColumn.standsFor_iff.mp stands).2.1.symm.trans byId
    · exact origin.name.symm.trans byName
  · rintro ⟨aggregation, leads, names⟩
    obtain ⟨planned, known, stands⟩ :=
      represents.complete aggregation (List.mem_of_find?_eq_some leads)
    obtain ⟨first, field, origin⟩ := represents.sound planned known
    have earliest := origin.earliest
    rw [AggregateColumn.standsFor_eq stands, leads] at earliest
    cases earliest
    refine ⟨_, List.mem_map_of_mem known, names.imp (fun byId => ?_) ?_⟩
    · exact (AggregateColumn.standsFor_iff.mp stands).2.1.trans byId
    · rintro ⟨other, found, byName⟩
      cases origin.known.symm.trans found
      exact origin.name.trans byName

namespace PlanRequest

/-- What the calculations of a report may refer to. -/
def calculationScope (request : PlanRequest) (settings : Settings) :
    Except PlanError CalculationScope := do
  checkSelected request.catalog request.selected
  let aggregates ← AggregatePlan.ofAggregations request.catalog settings request.aggregations
  let grouping ← GroupingKey.ofFields request.catalog
    (groupingFields request.selected request.aggregations)
  .ok {
    mode := Mode.select (!aggregates.columns.isEmpty) (!request.config.calculations.isEmpty)
    aggregates := aggregates.names
    grouping
    policy := settings.unresolvedReference }

/-- Whether a report aggregates a field that has this id or is called so: by the label that the report
gives it, else by its display name. -/
def NamesAggregate (request : PlanRequest) (name : String) : Prop :=
  ∃ aggregation : Aggregation, aggregation.Leads request.aggregations ∧
    (aggregation.fieldId = name ∨ ∃ aggregated,
      request.catalog.field? aggregation.formId aggregation.fieldId = some aggregated ∧
        AggregatePlan.fieldName aggregation aggregated = name)

/-- Whether a report groups by a field that it shows under this name. -/
def Displays (request : PlanRequest) (column : String) : Prop :=
  ∃ selected ∈ groupingFields request.selected request.aggregations,
    selected.column request.catalog = column

/-- Whether a name of a field leads to a column of the report. -/
def Finds (request : PlanRequest) (name : String) (field : Field) : Prop :=
  request.NamesAggregate name ∨ request.Displays name ∨ request.Displays field.name

/-- Whether a report aggregates a field or groups by it, with no label that keeps the name from it. -/
def Carries (request : PlanRequest) (name formId : String) (field : Field) : Prop :=
  (∃ aggregation ∈ request.aggregations, aggregation.formId = formId ∧
    aggregation.fieldId = field.id ∧ (name = field.id ∨ aggregation.Leads request.aggregations ∧
      (aggregation.fieldName = "" ∨ aggregation.fieldName = name))) ∨
  ∃ selected ∈ groupingFields request.selected request.aggregations, selected.formId = formId ∧
    selected.fieldId = field.id ∧ (Text.trim selected.fieldName = "" ∨
      Text.trim selected.fieldName = name ∨ Text.trim selected.fieldName = field.name)

variable {request : PlanRequest} {settings : Settings} {scope : CalculationScope}
  {name formId : String} {field : Field}

theorem finds_iff (reached : request.calculationScope settings = .ok scope) :
    scope.Finds name field ↔ request.Finds name field := by
  obtain ⟨_, _, reached⟩ := bind_eq_ok.mp reached
  obtain ⟨aggregates, built, reached⟩ := bind_eq_ok.mp reached
  obtain ⟨grouping, grouped, same⟩ := bind_eq_ok.mp reached
  cases same
  have shown (column : String) : (∃ key ∈ grouping, key.column = column) ↔
      request.Displays column := by
    rw [← List.mem_map, GroupingKey.columns_ofFields grouped, List.mem_eraseDups, List.mem_map]
    rfl
  unfold CalculationScope.Finds Finds NamesAggregate
  rw [← AggregatePlan.exists_named_iff built, ← shown, ← shown, ← exists_or]
  simp only [and_or_left]

/-- A field that is aggregated or grouped by is found by its id and its name, if no label keeps them
from it. -/
theorem finds_of_carries (found : request.catalog.lookup? name = some (formId, field))
    (own : request.catalog.field? formId field.id = some field)
    (carries : request.Carries name formId field) : request.Finds name field := by
  rcases carries with ⟨aggregation, inside, rfl, target, named⟩ | ⟨selected, inside, rfl, target, label⟩
  · rcases named with rfl | ⟨leads, label⟩
    · obtain ⟨first, leads, _, same⟩ := Aggregation.exists_leads inside
      exact .inl ⟨first, leads, .inl (same.trans target)⟩
    · rcases Catalog.id_or_name_of_lookup? found with byId | byName
      · exact .inl ⟨aggregation, leads, .inl (target.trans byId)⟩
      · refine .inl ⟨aggregation, leads, .inr ⟨field, target ▸ own, ?_⟩⟩
        unfold AggregatePlan.fieldName
        split
        · exact byName
        · rename_i labelled
          exact label.resolve_left labelled
  · have column : selected.column request.catalog =
        if Text.trim selected.fieldName ≠ "" then Text.trim selected.fieldName else field.name := by
      rw [SelectedField.column, target, own]
      rfl
    split at column
    · rename_i labelled
      rcases label with blank | same | same
      · exact absurd blank labelled
      · exact .inr (.inl ⟨selected, inside, column.trans same⟩)
      · exact .inr (.inr ⟨selected, inside, column.trans same⟩)
    · exact .inr (.inr ⟨selected, inside, column⟩)

/-- A report that is refused for an ungrouped name is grouped, and the name stands in a calculation
and leads to no column. -/
theorem of_compile_eq_ungrouped {column : String}
    (failed : (request.compile settings).result = .error (.ungroupedReference column name)) :
    ∃ calculation ∈ request.config.calculations, Text.trim calculation.name = column ∧
      ∃ tree, Expression.parse calculation.expression = .ok tree ∧ name ∈ tree.leaves ∧
        ∃ formId field, request.catalog.lookup? name = some (formId, field) ∧
          ¬ request.Finds name field := by
  unfold compile at failed
  dsimp only at failed
  split at failed
  · cases failed
  · simp only [Traced.result_bind, Traced.result_ofExcept] at failed
    obtain ⟨_, selected, failed⟩ := (neverUngrouped_checkSelected _ _).of_bind failed
    obtain ⟨aggregates, built, failed⟩ :=
      (AggregatePlan.neverUngrouped_ofAggregations _ _ _).of_bind failed
    obtain ⟨grouping, grouped, failed⟩ := (GroupingKey.neverUngrouped_ofFields _ _).of_bind failed
    have reached : request.calculationScope settings = .ok {
        mode := Mode.select (!aggregates.columns.isEmpty) (!request.config.calculations.isEmpty)
        aggregates := aggregates.names
        grouping
        policy := settings.unresolvedReference } :=
      bind_eq_ok.mpr ⟨_, selected, bind_eq_ok.mpr ⟨_, built, bind_eq_ok.mpr ⟨_, grouped, rfl⟩⟩⟩
    rcases bind_eq_error.mp failed with refused | ⟨calculations, _, failed⟩
    · obtain ⟨calculation, inside, named, tree, parsed, leaf, _, formId, field, found, lost⟩ :=
        CalculationScope.of_columns_eq_ungrouped refused
      exact ⟨calculation, inside, named, tree, parsed, leaf, formId, field, found,
        fun finds => lost ((finds_iff reached).mpr finds)⟩
    · obtain ⟨_, _, failed⟩ := (NeverUngrouped.mapM request.config.filters
        (RowFilter.neverUngrouped_ofFilter _)).of_bind failed
      split at failed <;> cases failed

/-- In a grouped report a name of a field is refused just when it leads to no column, and else reads one.
Every field that is aggregated or grouped by is found if no label keeps its name from it. Nothing else
in planning fails so. -/
theorem refused_iff_not_finds (settings : Settings) (request : PlanRequest) :
    (∀ scope, request.calculationScope settings = .ok scope → scope.mode.isGrouped = true →
      ∀ calculation name formId field, request.catalog.lookup? name = some (formId, field) →
        (request.Finds name field → ∃ leaf, scope.LeadsTo name field leaf ∧
          (scope.resolve request.catalog calculation name).result = .ok (.ref leaf)) ∧
        ((scope.resolve request.catalog calculation name).result =
          .error (.ungroupedReference calculation name) ↔ ¬ request.Finds name field) ∧
        (request.catalog.field? formId field.id = some field →
          request.Carries name formId field → request.Finds name field)) ∧
      ∀ column name, (request.compile settings).result = .error (.ungroupedReference column name) →
        ∃ calculation ∈ request.config.calculations, Text.trim calculation.name = column ∧
          ∃ tree, Expression.parse calculation.expression = .ok tree ∧ name ∈ tree.leaves ∧
            ∃ formId field, request.catalog.lookup? name = some (formId, field) ∧
              ¬ request.Finds name field := by
  refine ⟨?_, fun column name => of_compile_eq_ungrouped⟩
  intro scope reached grouped calculation name formId field found
  refine ⟨?_, ?_, finds_of_carries found⟩
  · intro finds
    rcases CalculationScope.resolve_of_lookup? grouped calculation found with ⟨_, read⟩ | ⟨lost, _⟩
    · exact read
    · exact absurd ((finds_iff reached).mpr finds) lost
  · rw [← finds_iff reached]
    rcases CalculationScope.resolve_of_lookup? grouped calculation found with
      ⟨finds, leaf, _, read⟩ | ⟨lost, refused⟩
    · exact iff_of_false (fun refused => by cases read.symm.trans refused) (not_not_intro finds)
    · exact iff_of_true refused lost

/-- A report that sums up the weights of a pond under another label. -/
def massRequest (source : String) : PlanRequest where
  config := { ReportConfig.empty with
    selectedForms := ["pond"]
    selectedFields := [⟨"pond", "note", ""⟩]
    aggregations := [⟨"pond", "w", "Mass", .sum⟩]
    calculations := [⟨"Double", source⟩] }
  catalog := [⟨"pond", [.plain "w" "Weight" .number, .plain "note" "Note" .text]⟩]
  site := none

def massScope : CalculationScope where
  mode := .aggregateThenCalculate
  aggregates := [⟨"w", "Mass", "Mass_sum"⟩]
  grouping := [⟨"Note", ⟨["Note", "note"], .text, []⟩⟩]
  policy := .reject

/-- The id of the aggregated field is found under any label, its display name is not. -/
theorem refused_iff_not_finds_mass :
    (∃ leaf, massScope.LeadsTo "w" (.plain "w" "Weight" .number) leaf ∧
      (massScope.resolve (massRequest "w + w").catalog "Double" "w").result = .ok (.ref leaf)) ∧
    ∃ calculation ∈ (massRequest "Weight + w").config.calculations,
      Text.trim calculation.name = "Double" ∧
        ∃ tree, Expression.parse calculation.expression = .ok tree ∧ "Weight" ∈ tree.leaves ∧
          ∃ formId field,
            (massRequest "Weight + w").catalog.lookup? "Weight" = some (formId, field) ∧
              ¬ (massRequest "Weight + w").Finds "Weight" field := by
  obtain ⟨known, _⟩ := refused_iff_not_finds .default (massRequest "w + w")
  obtain ⟨_, refused⟩ := refused_iff_not_finds .default (massRequest "Weight + w")
  constructor
  · obtain ⟨reads, _, carried⟩ := known massScope (by decide +kernel) rfl "Double" "w" "pond"
      (.plain "w" "Weight" .number) rfl
    refine reads (carried rfl (.inl ⟨⟨"pond", "w", "Mass", .sum⟩, ?_, rfl, rfl, .inl rfl⟩))
    decide
  · refine refused "Double" "Weight" ?_
    decide +kernel

/-- The weight of a pond is aggregated, and a calculation that calls it by its display name is refused as
if it were not. -/
theorem refuses_aggregated :
    (massRequest "Weight + Weight").catalog.lookup? "Weight" =
        some ("pond", .plain "w" "Weight" .number) ∧
      (∃ aggregation ∈ (massRequest "Weight + Weight").aggregations,
        aggregation.formId = "pond" ∧ aggregation.fieldId = "w") ∧
      (massRequest "Weight + Weight").calculationScope .default = .ok massScope ∧
      massScope.mode.isGrouped = true ∧
      (massScope.resolve (massRequest "Weight + Weight").catalog "Double" "Weight").result =
        .error (.ungroupedReference "Double" "Weight") ∧
      ((massRequest "Weight + Weight").compile .default).result =
        .error (.ungroupedReference "Double" "Weight") := by
  refine ⟨rfl, ⟨⟨"pond", "w", "Mass", .sum⟩, by decide, rfl, rfl⟩, by decide +kernel, rfl,
    by decide +kernel, by decide +kernel⟩

end PlanRequest

end FormReport
