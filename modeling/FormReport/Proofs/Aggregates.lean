import FormReport.Proofs.Columns

set_option autoImplicit false

/- The columns of aggregates and the aggregations that they stand for. Every column is made for the
first aggregation of its form, field and function, whose name it takes, and stands for all others. -/
namespace FormReport

/-- Whether a column stands for an aggregation: it is of the same form, field and function. -/
def AggregateColumn.standsFor (planned : AggregateColumn) (aggregation : Aggregation) : Bool :=
  planned.formId = aggregation.formId && planned.fieldId = aggregation.fieldId &&
    planned.function = aggregation.function

theorem AggregateColumn.standsFor_iff {planned : AggregateColumn} {aggregation : Aggregation} :
    planned.standsFor aggregation = true ↔ planned.formId = aggregation.formId ∧
      planned.fieldId = aggregation.fieldId ∧ planned.function = aggregation.function := by
  rw [standsFor, Bool.and_eq_true, Bool.and_eq_true, decide_eq_true_eq, decide_eq_true_eq,
    decide_eq_true_eq, and_assoc]

/-- What a column has from the first of the aggregations that it stands for, which is on a field of
the catalog. -/
structure AggregateColumn.Origin (planned : AggregateColumn) (catalog : Catalog) (settings : Settings)
    (aggregations : List Aggregation) (first : Aggregation) (field : Field) : Prop where
  earliest : aggregations.find? planned.standsFor = some first
  known : catalog.field? first.formId first.fieldId = some field
  name : planned.fieldName = AggregatePlan.fieldName first field
  rounds : planned.roundsToInteger =
    (planned.function = .sum && settings.isIntegerQuantity planned.fieldName)

namespace AggregatePlan

/-- How a plan stands to the aggregations that are taken in. -/
structure Represents (plan : AggregatePlan) (catalog : Catalog) (settings : Settings)
    (aggregations : List Aggregation) : Prop where
  sound : ∀ planned ∈ plan.columns, ∃ first field,
    planned.Origin catalog settings aggregations first field
  complete : ∀ aggregation ∈ aggregations, ∃ planned ∈ plan.columns,
    planned.standsFor aggregation = true

variable {plan : AggregatePlan} {catalog : Catalog} {settings : Settings}
  {aggregations : List Aggregation}

/-- Later aggregations do not change where a column comes from. -/
theorem Represents.origin_concat (represents : plan.Represents catalog settings aggregations)
    (last : Aggregation) : ∀ planned ∈ plan.columns, ∃ first field,
      planned.Origin catalog settings (aggregations ++ [last]) first field := by
  intro planned known
  obtain ⟨first, field, origin⟩ := represents.sound planned known
  refine ⟨first, field, ?_, origin.known, origin.name, origin.rounds⟩
  rw [List.find?_append, origin.earliest, Option.some_or]

/-- The column of an aggregation that is not covered stands for none that came before. -/
theorem Represents.origin_newColumn (represents : plan.Represents catalog settings aggregations)
    {aggregation : Aggregation} (fresh : plan.covers aggregation = false) {field : Field}
    (known : catalog.field? aggregation.formId aggregation.fieldId = some field)
    (accessor : Accessor) :
    (plan.newColumn settings aggregation field accessor).Origin catalog settings
      (aggregations ++ [aggregation]) aggregation field := by
  have own : (plan.newColumn settings aggregation field accessor).standsFor aggregation = true :=
    AggregateColumn.standsFor_iff.mpr ⟨rfl, rfl, rfl⟩
  have none : aggregations.find?
      (plan.newColumn settings aggregation field accessor).standsFor = none := by
    rw [List.find?_eq_none]
    intro earlier inside same
    obtain ⟨planned, member, stands⟩ := represents.complete earlier inside
    rw [AggregateColumn.standsFor_iff] at same stands
    -- The earlier aggregation is of the same triple, so its column would cover this one.
    have covers : planned.standsFor aggregation = true := AggregateColumn.standsFor_iff.mpr
      ⟨stands.1.trans same.1.symm, stands.2.1.trans same.2.1.symm,
        stands.2.2.trans same.2.2.symm⟩
    have covered : plan.covers aggregation = true := List.any_eq_true.mpr ⟨planned, member, covers⟩
    rw [fresh] at covered
    cases covered
  refine ⟨?_, known, rfl, rfl⟩
  rw [List.find?_append, none, Option.none_or, List.find?_cons, own]

theorem represents_of_ofAggregations
    (built : ofAggregations catalog settings aggregations = .ok plan) :
    plan.Represents catalog settings aggregations := by
  refine foldlM_keeps (fun taken (plan : AggregatePlan) => plan.Represents catalog settings taken)
    ?_ [] aggregations ⟨[], 0⟩ plan ⟨nofun, nofun⟩ built
  intro taken before aggregation after held added
  rcases add_ok added with ⟨covered, rfl⟩ | ⟨form, field, accessor, fresh, inForm, inField, _, rfl⟩
  · refine ⟨held.origin_concat aggregation, ?_⟩
    intro other inside
    rcases List.mem_append.mp inside with earlier | last
    · exact held.complete other earlier
    · rw [List.mem_singleton.mp last]
      exact List.any_eq_true.mp covered
  · have known : catalog.field? aggregation.formId aggregation.fieldId = some field := by
      rw [Catalog.field?, inForm, Option.bind_some, inField]
    constructor
    · intro planned inside
      rcases List.mem_append.mp inside with earlier | last
      · exact held.origin_concat aggregation planned earlier
      · rw [List.mem_singleton.mp last]
        exact ⟨aggregation, field, held.origin_newColumn fresh known accessor⟩
    · intro other inside
      rcases List.mem_append.mp inside with earlier | last
      · obtain ⟨planned, member, stands⟩ := held.complete other earlier
        exact ⟨planned, List.mem_append_left _ member, stands⟩
      · rw [List.mem_singleton.mp last]
        exact ⟨_, List.mem_append_right _ (List.mem_singleton_self _),
          AggregateColumn.standsFor_iff.mpr ⟨rfl, rfl, rfl⟩⟩

end AggregatePlan

end FormReport
