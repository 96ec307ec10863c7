import FormReport.Proofs.DisplayKeys
import FormReport.Proofs.OwnFormula

set_option autoImplicit false

/- Where the keys come from under which stored rows are read. A report may name its columns as it likes,
but rows are read under ids and display names of the catalog only; the name of a display column is the
one exception. An aggregate does not even read names of other forms. -/
namespace FormReport

/-- The ids and display names of the fields of a form. -/
def FormFields.identifiers (form : FormFields) : List String :=
  form.fields.flatMap fun field => [field.id, field.name]

/-- The ids and display names of the fields of all forms. -/
def Catalog.identifiers (catalog : Catalog) : List String := catalog.flatMap (·.identifiers)

namespace Accessor

/-- Whether a formula of an accessor reads another. -/
def Calls (outer inner : Accessor) : Prop :=
  ∃ derivation ∈ outer.derivations, inner ∈ derivation.2.leaves

/-- Whether an accessor and all that its formulas read, at any depth, have a property. -/
def Throughout (holds : Accessor → Prop) (accessor : Accessor) : Prop :=
  ∀ inner, Relation.ReflTransGen Calls accessor inner → holds inner

/-- Whether all that the formulas of an accessor read, at any depth, has a property. -/
def Inside (holds : Accessor → Prop) (accessor : Accessor) : Prop :=
  ∀ inner, Relation.TransGen Calls accessor inner → holds inner

/-- Whether the keys of an accessor are among some identifiers. -/
def KeyedBy (identifiers : List String) (accessor : Accessor) : Prop :=
  ∀ key ∈ accessor.keys, key ∈ identifiers

/-- Whether an accessor reads a form only: under the ids and names of its fields, and with formulas for
its rows. -/
structure BelongsTo (form : FormFields) (accessor : Accessor) : Prop where
  keys : accessor.KeyedBy form.identifiers
  formulas : ∀ derivation ∈ accessor.derivations, derivation.1 = form.formId

variable {holds other : Accessor → Prop} {accessor : Accessor}

theorem inside_iff :
    accessor.Inside holds ↔ ∀ inner, accessor.Calls inner → inner.Throughout holds := by
  constructor
  · intro inside inner called deeper reached
    exact inside deeper (Relation.TransGen.head'_iff.mpr ⟨inner, called, reached⟩)
  · intro each deeper reached
    obtain ⟨inner, called, further⟩ := Relation.TransGen.head'_iff.mp reached
    exact each inner called deeper further

theorem throughout_iff :
    accessor.Throughout holds ↔ holds accessor ∧ accessor.Inside holds := by
  constructor
  · intro throughout
    exact ⟨throughout accessor .refl, fun inner reached => throughout inner reached.to_reflTransGen⟩
  · rintro ⟨own, inside⟩ inner reached
    rcases Relation.reflTransGen_iff_eq_or_transGen.mp reached with rfl | deeper
    · exact own
    · exact inside inner deeper

theorem Throughout.imp (throughout : accessor.Throughout holds)
    (weaker : ∀ inner, holds inner → other inner) : accessor.Throughout other := by
  intro inner reached
  exact weaker inner (throughout inner reached)

end Accessor

namespace FormFields

variable {form : FormFields}

theorem id_mem_identifiers {field : Field} (inside : field ∈ form.fields) :
    field.id ∈ form.identifiers :=
  List.mem_flatMap.mpr ⟨field, inside, by simp⟩

theorem name_mem_identifiers {field : Field} (inside : field ∈ form.fields) :
    field.name ∈ form.identifiers :=
  List.mem_flatMap.mpr ⟨field, inside, by simp⟩

theorem mem_identifiers_of_idsNamed {name id : String} (inside : id ∈ form.idsNamed name) :
    id ∈ form.identifiers := by
  obtain ⟨field, member, rfl⟩ := List.mem_map.mp inside
  exact id_mem_identifiers (List.mem_filter.mp member).1

variable {catalog : Catalog} {field : Field}

theorem belongsTo_accessor (listed : catalog.form? form.formId = some form)
    (inside : field ∈ form.fields) (derived : Option (Expression Accessor)) :
    (form.accessor catalog field derived).BelongsTo form := by
  constructor
  · intro key member
    rw [accessor, Catalog.keysInForm, listed, List.mem_eraseDups] at member
    rcases List.mem_cons.mp member with rfl | member
    · exact name_mem_identifiers inside
    · rcases List.mem_cons.mp member with rfl | namesake
      · exact id_mem_identifiers inside
      · exact mem_identifiers_of_idsNamed namesake
  · intro derivation member
    obtain ⟨formula, _, rfl⟩ := List.mem_map.mp member
    rfl

/-- What is resolved within a form never leaves it. -/
theorem throughout_of_derivation (listed : catalog.form? form.formId = some form)
    (inside : field ∈ form.fields) {visiting : List String} {derived : Option (Expression Accessor)}
    (made : form.derivation catalog visiting field = .ok derived) :
    (form.accessor catalog field derived).Throughout (·.BelongsTo form) := by
  induction visiting, field using visiting_induction form generalizing derived with
  | step visiting field ih =>
    refine Accessor.throughout_iff.mpr
      ⟨belongsTo_accessor listed inside derived, Accessor.inside_iff.mpr ?_⟩
    rintro inner ⟨derivation, member, read⟩
    rcases derivation_cases made with ⟨_, rfl⟩ |
      ⟨source, tree, resolved, _, apart, _, replaced, rfl⟩
    · cases member
    · cases List.mem_singleton.mp member
      obtain ⟨name, _, part, resolved, leaf⟩ := Expression.mem_leaves_substitute replaced read
      obtain ⟨target, derived, named, planned, rfl⟩ := exists_of_reference resolved
      cases List.mem_singleton.mp leaf
      have own := mem_of_target? named
      exact ih apart target own own planned

end FormFields

namespace Catalog

variable {catalog : Catalog} {form : FormFields}

theorem mem_of_form? {formId : String} (found : catalog.form? formId = some form) :
    form ∈ catalog ∧ form.formId = formId := by
  have hit := List.find?_some found
  exact ⟨List.mem_of_find?_eq_some found, of_decide_eq_true hit⟩

theorem mem_identifiers (inside : form ∈ catalog) {key : String} (known : key ∈ form.identifiers) :
    key ∈ catalog.identifiers :=
  List.mem_flatMap.mpr ⟨form, inside, known⟩

theorem exists_of_find? {inForm : FormFields → Option Field} {formId : String} {field : Field}
    (found : catalog.find? inForm = some (formId, field)) :
    ∃ form ∈ catalog, inForm form = some field := by
  obtain ⟨form, inside, hit⟩ := List.exists_of_findSome?_eq_some found
  obtain ⟨_, known, same⟩ := Option.map_eq_some_iff.mp hit
  cases same
  exact ⟨form, inside, known⟩

/-- Whatever a reference means is a field of the catalog. -/
theorem exists_of_lookup? {reference formId : String} {field : Field}
    (found : catalog.lookup? reference = some (formId, field)) :
    ∃ form ∈ catalog, field ∈ form.fields := by
  rcases Option.or_eq_some_iff.mp found with byId | ⟨_, byName⟩
  · obtain ⟨form, inside, hit⟩ := exists_of_find? byId
    exact ⟨form, inside, FormFields.mem_of_fieldById? hit⟩
  · obtain ⟨form, inside, hit⟩ := exists_of_find? byName
    exact ⟨form, inside, FormFields.mem_of_fieldByName? hit⟩

/-- The candidates of a name are the name and ids of the catalog. -/
theorem mem_identifiers_of_candidate {name key : String}
    (candidate : key ∈ catalog.candidateKeys name) : key = name ∨ key ∈ catalog.identifiers := by
  rcases mem_candidateKeys.mp candidate with same | ⟨form, inside, namesake⟩
  · exact .inl same
  · exact .inr (mem_identifiers inside (FormFields.mem_identifiers_of_idsNamed namesake))

end Catalog

namespace Accessor

variable {catalog : Catalog} {form : FormFields} {accessor : Accessor}

theorem BelongsTo.keyedBy (belongs : accessor.BelongsTo form) (inside : form ∈ catalog) :
    accessor.KeyedBy catalog.identifiers :=
  fun key member => Catalog.mem_identifiers inside (belongs.keys key member)

theorem belongsTo_of_ofField (listed : catalog.form? form.formId = some form) {field : Field}
    (inside : field ∈ form.fields) (made : ofField catalog form field = .ok accessor) :
    accessor.Throughout (·.BelongsTo form) := by
  obtain ⟨derived, resolved, rfl⟩ := FormFields.ofField_eq_ok.mp made
  exact FormFields.throughout_of_derivation listed inside resolved

/-- What the formula for a name in a form reads belongs to that form. -/
theorem belongsTo_of_derivationIn {name : String} {part : List (String × Expression Accessor)}
    (made : derivationIn name form = .ok part) {derivation : String × Expression Accessor}
    (member : derivation ∈ part) {inner : Accessor} (read : inner ∈ derivation.2.leaves) :
    inner.Throughout (·.BelongsTo form) := by
  rcases FormFields.derivationIn_cases made with ⟨_, rfl⟩ | ⟨field, derived, named, resolved, rfl⟩
  · cases member
  · have alone : Catalog.form? [form] form.formId = some form := by simp [Catalog.form?]
    have whole := FormFields.throughout_of_derivation alone
      (FormFields.mem_of_fieldByName? named) resolved
    exact inside_iff.mp (throughout_iff.mp whole).2 inner ⟨derivation, member, read⟩

/-- Whatever name is read in all forms, its formulas look under ids and names of the catalog. -/
theorem inside_of_ofName {name : String} {declaredId : Option String}
    (made : ofName catalog name declaredId = .ok accessor) :
    accessor.Inside (·.KeyedBy catalog.identifiers) := by
  refine inside_iff.mpr ?_
  rintro inner ⟨derivation, member, read⟩
  obtain ⟨form, known, part, resolved, inside⟩ := exists_derivationIn_of_ofName made member
  exact (belongsTo_of_derivationIn resolved inside read).imp fun _ belongs => belongs.keyedBy known

/-- So does the accessor of a field that was looked up, under its name and its id. -/
theorem keyedBy_of_lookup? {reference formId : String} {field : Field}
    (found : catalog.lookup? reference = some (formId, field))
    (made : ofName catalog field.name (some field.id) = .ok accessor) :
    accessor.Throughout (·.KeyedBy catalog.identifiers) := by
  refine throughout_iff.mpr ⟨fun key member => ?_, inside_of_ofName made⟩
  obtain ⟨form, inside, own⟩ := Catalog.exists_of_lookup? found
  rcases (mem_keys_ofName made).mp member with candidate | declared
  · rcases Catalog.mem_identifiers_of_candidate candidate with rfl | known
    · exact Catalog.mem_identifiers inside (FormFields.name_mem_identifiers own)
    · exact known
  · cases declared
    exact Catalog.mem_identifiers inside (FormFields.id_mem_identifiers own)

end Accessor

/-- The id of a selected field that passes the check is one of the catalog. -/
theorem mem_identifiers_of_checkSelected {catalog : Catalog} {selected : List SelectedField}
    (checked : checkSelected catalog selected = .ok ()) {field : SelectedField}
    (inside : field ∈ selected) : field.fieldId ∈ catalog.identifiers := by
  obtain ⟨form, declared, listed, own⟩ := exists_of_checkSelected checked inside
  have hit := List.find?_some own
  rw [← of_decide_eq_true hit]
  exact Catalog.mem_identifiers (Catalog.mem_of_form? listed).1
    (FormFields.id_mem_identifiers (FormFields.mem_of_fieldById? own))

namespace GroupingKey

/-- Whether a display column looks under some identifiers, and under its own name. Formulas on the way
look under the identifiers only. -/
structure LooksUnder (grouped : GroupingKey) (identifiers : List String) : Prop where
  keys : ∀ key ∈ grouped.accessor.keys, key = grouped.column ∨ key ∈ identifiers
  formulas : grouped.accessor.Inside (·.KeyedBy identifiers)

theorem looksUnder_of_ofFields {catalog : Catalog} {fields : List SelectedField}
    (known : ∀ field ∈ fields, field.fieldId ∈ catalog.identifiers) {grouping : List GroupingKey}
    (made : ofFields catalog fields = .ok grouping) :
    ∀ grouped ∈ grouping, grouped.LooksUnder catalog.identifiers := by
  intro grouped inside
  constructor
  · intro key member
    rcases (collects_of_ofFields made grouped inside).others key member with
      candidate | ⟨field, selected, rfl, _⟩
    · exact Catalog.mem_identifiers_of_candidate candidate
    · exact .inr (known field selected)
  · obtain ⟨_, accessor, resolved, formulas, _⟩ := exists_ofName_of_ofFields made grouped inside
    have whole := Accessor.inside_of_ofName resolved
    refine Accessor.inside_iff.mpr ?_
    rintro inner ⟨derivation, member, read⟩
    exact Accessor.inside_iff.mp whole inner ⟨derivation, formulas ▸ member, read⟩

end GroupingKey

/-- Whether an aggregate reads one form of a catalog, its own. -/
def AggregateColumn.ReadsOwnForm (planned : AggregateColumn) (catalog : Catalog) : Prop :=
  ∃ form, catalog.form? planned.formId = some form ∧ planned.accessor.Throughout (·.BelongsTo form)

theorem AggregatePlan.readsOwnForm_of_ofAggregations {catalog : Catalog} {settings : Settings}
    {aggregations : List Aggregation} {plan : AggregatePlan}
    (built : ofAggregations catalog settings aggregations = .ok plan) :
    ∀ planned ∈ plan.columns, planned.ReadsOwnForm catalog := by
  refine foldlM_keeps (fun _ (plan : AggregatePlan) =>
    ∀ planned ∈ plan.columns, planned.ReadsOwnForm catalog) ?_ [] aggregations ⟨[], 0⟩ plan nofun built
  intro _ before aggregation after held added
  rcases add_ok added with ⟨_, rfl⟩ | ⟨form, field, accessor, _, listed, own, resolved, rfl⟩
  · exact held
  · intro planned inside
    rcases List.mem_append.mp inside with earlier | last
    · exact held planned earlier
    · rw [List.mem_singleton.mp last]
      have named := (Catalog.mem_of_form? listed).2
      exact ⟨form, listed, Accessor.belongsTo_of_ofField (named ▸ listed)
        (FormFields.mem_of_fieldById? own) resolved⟩

theorem RowFilter.keyedBy_of_ofFilter {catalog : Catalog} {filter : ReportFilter}
    {planned : RowFilter} (made : ofFilter catalog filter = .ok planned) :
    planned.accessor.Throughout (·.KeyedBy catalog.identifiers) := by
  unfold ofFilter at made
  split at made
  · cases made
  · rename_i field found
    obtain ⟨accessor, resolved, same⟩ := bind_eq_ok.mp made
    cases same
    exact Accessor.keyedBy_of_lookup? found resolved

/-- A name in a calculation reads a stored row in raw mode only, and then as a display column does or
under ids and names of the catalog. -/
theorem CalculationScope.keyedBy_of_leaf? {scope : CalculationScope} {catalog : Catalog}
    {calculation name : String} {accessor : Accessor}
    (meant : scope.leaf? catalog calculation name = .ok (some (.raw accessor))) :
    accessor.Throughout (·.KeyedBy catalog.identifiers) ∨
      scope.mode.isGrouped = false ∧ ∃ grouped ∈ scope.grouping, accessor = grouped.accessor := by
  have raw : scope.mode.isGrouped = false := within_of_leaf? meant
  unfold leaf? at meant
  rw [raw] at meant
  change scope.rawLeaf? catalog name = _ at meant
  unfold rawLeaf? at meant
  split at meant
  · rename_i grouped displayed
    cases meant
    exact .inr ⟨raw, grouped, List.mem_of_find?_eq_some displayed, rfl⟩
  · split at meant
    · cases meant
    · rename_i field found
      obtain ⟨made, resolved, same⟩ := bind_eq_ok.mp meant
      cases same
      exact .inl (Accessor.keyedBy_of_lookup? found resolved)

/-- Whether a plan looks into stored rows under ids and names of a catalog only, save for the names of
display columns. What a calculation reads from stored rows may be a display column. -/
structure Plan.LooksUnder (plan : Plan) (catalog : Catalog) : Prop where
  grouping : ∀ grouped ∈ plan.grouping, grouped.LooksUnder catalog.identifiers
  aggregates : ∀ planned ∈ plan.aggregates,
    planned.accessor.Throughout (·.KeyedBy catalog.identifiers) ∧ planned.ReadsOwnForm catalog
  filters : ∀ filter ∈ plan.filters, filter.accessor.Throughout (·.KeyedBy catalog.identifiers)
  calculations : ∀ calculation ∈ plan.calculations, ∀ accessor,
    .raw accessor ∈ calculation.formula.leaves →
      accessor.Throughout (·.KeyedBy catalog.identifiers) ∨
        plan.mode.isGrouped = false ∧ ∃ grouped ∈ plan.grouping, accessor = grouped.accessor

theorem PlanStages.Accepted.looksUnder {stages : PlanStages} {settings : Settings}
    {request : PlanRequest} (accepted : stages.Accepted settings request) :
    (stages.plan request).LooksUnder request.catalog := by
  have known : ∀ field ∈ groupingFields request.selected request.aggregations,
      field.fieldId ∈ request.catalog.identifiers := by
    intro field displayed
    exact mem_identifiers_of_checkSelected accepted.selected (List.mem_of_mem_filter displayed)
  refine ⟨GroupingKey.looksUnder_of_ofFields known accepted.grouping, ?_, ?_, ?_⟩
  · intro planned inside
    have own := AggregatePlan.readsOwnForm_of_ofAggregations accepted.aggregates planned inside
    obtain ⟨form, listed, whole⟩ := own
    have member := (Catalog.mem_of_form? listed).1
    exact ⟨whole.imp fun _ belongs => belongs.keyedBy member, form, listed, whole⟩
  · intro filter inside
    obtain ⟨_, _, made⟩ := exists_of_mem_mapM accepted.filters inside
    exact RowFilter.keyedBy_of_ofFilter made
  · intro calculation inside accessor leaf
    have made := CalculationScope.columns_ok accepted.calculations
    obtain ⟨_, _, planned⟩ := exists_of_forall₂ made.flip inside
    obtain ⟨name, meant⟩ := CalculationScope.exists_leaf?_of_formula planned.formula leaf
    exact CalculationScope.keyedBy_of_leaf? meant

namespace PlanRequest

/-- Whatever the report names its columns, stored rows are read under ids and names of the catalog, and a
display column also under its own name. -/
theorem looksUnder_of_compile {settings : Settings} {request : PlanRequest} {plan : Plan}
    {summary : PlanSummary} (compiled : (request.compile settings).result = .ok (plan, summary)) :
    plan.LooksUnder request.catalog := by
  obtain ⟨stages, accepted, rfl⟩ := compile_ok compiled
  exact accepted.looksUnder

/-- Fish of two ponds, with the weight under a name of the report's own. -/
def levied (aggregations : List Aggregation) : PlanRequest where
  config := { ReportConfig.empty with
    selectedForms := ["out", "in"]
    selectedFields := [⟨"in", "w", "Levy"⟩]
    aggregations
    calculations := [⟨"Due", "Levy + Quadruple"⟩]
    filters := [⟨"Double", .eq, .null⟩] }
  catalog := [Accessor.weighedOut, Accessor.weighedIn]
  site := none

def levy : GroupingKey := ⟨"Levy", ⟨["Levy", "w"], .text, []⟩⟩

/-- What the name reads in both forms. -/
def double : Accessor :=
  ⟨["Double", "d"], .derived, Accessor.doubleOut.derivations ++ Accessor.doubleIn.derivations⟩

/-- What is read for the incoming fish alone. -/
def quadrupleIn : Accessor :=
  ⟨["Quadruple", "q"], .derived,
    [("in", .binary .add (.ref Accessor.doubleIn) (.ref Accessor.doubleIn))]⟩

/-- Without aggregates the label is copied into the calculation. -/
def leviedPlan : Plan where
  mode := .raw
  formIds := ["out", "in"]
  site := none
  filters := [⟨double, ["out", "in"], .eq, .missing⟩]
  grouping := [levy]
  aggregates := []
  calculations := [⟨"Due", "Levy + Quadruple",
    .binary .add (.ref (.raw levy.accessor)) (.ref (.raw Accessor.quadruple))⟩]
  sort := []
  columns := ["Levy", "Due"]

def leviedSumPlan : Plan where
  mode := .aggregateThenCalculate
  formIds := ["out", "in"]
  site := none
  filters := [⟨double, ["out", "in"], .eq, .missing⟩]
  grouping := [levy]
  aggregates := [⟨"Quadruple_sum", "in", "q", "Quadruple", .sum, quadrupleIn, false⟩]
  calculations := [⟨"Due", "Levy + Quadruple",
    .binary .add (.ref (.grouping "Levy")) (.ref (.aggregate "Quadruple_sum"))⟩]
  sort := []
  columns := ["Levy", "Quadruple_sum", "Due"]

/-- Both plans are of one size but for the aggregate. -/
def leviedSummary (mode : Mode) (aggregates : Nat) : PlanSummary where
  mode := mode
  forms := 2
  grouping := 1
  aggregates := aggregates
  calculations := 1
  filters := 1
  aliases := 0
  ignoredSorts := 0

theorem looksUnder_of_compile_levied :
    ((levied []).compile .default).result = .ok (leviedPlan, leviedSummary .raw 0) ∧
      ((levied [⟨"in", "q", "", .sum⟩]).compile .default).result =
        .ok (leviedSumPlan, leviedSummary .aggregateThenCalculate 1) ∧
      "Levy" ∉ Catalog.identifiers [Accessor.weighedOut, Accessor.weighedIn] ∧
      leviedPlan.LooksUnder [Accessor.weighedOut, Accessor.weighedIn] ∧
      leviedSumPlan.LooksUnder [Accessor.weighedOut, Accessor.weighedIn] := by
  have raw : ((levied []).compile .default).result =
      .ok (leviedPlan, leviedSummary .raw 0) := by decide +kernel
  have summed : ((levied [⟨"in", "q", "", .sum⟩]).compile .default).result =
      .ok (leviedSumPlan, leviedSummary .aggregateThenCalculate 1) := by decide +kernel
  exact ⟨raw, summed, by decide, looksUnder_of_compile raw, looksUnder_of_compile summed⟩

end PlanRequest

end FormReport
