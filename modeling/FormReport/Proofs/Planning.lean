import FormReport.Plan.Compile
import FormReport.Proofs.Sequence

set_option autoImplicit false

/- A plan taken apart: what each stage of planning has given when all of them succeed. -/
namespace FormReport

/-- What the stages of planning give. -/
structure PlanStages where
  aggregates : AggregatePlan
  grouping : List GroupingKey
  calculations : List CalculationColumn
  filters : List RowFilter

namespace PlanStages

def mode (stages : PlanStages) (request : PlanRequest) : Mode :=
  Mode.select (!stages.aggregates.columns.isEmpty) (!request.config.calculations.isEmpty)

/-- The columns that calculations may not be named after. -/
def taken (stages : PlanStages) : List String :=
  stages.grouping.map (·.column) ++ stages.aggregates.columns.map (·.column)

def scope (stages : PlanStages) (settings : Settings) (request : PlanRequest) :
    CalculationScope where
  mode := stages.mode request
  aggregates := stages.aggregates.names
  grouping := stages.grouping
  policy := settings.unresolvedReference

def columns (stages : PlanStages) : List String :=
  stages.taken ++ stages.calculations.map (·.column)

def plan (stages : PlanStages) (request : PlanRequest) : Plan where
  mode := stages.mode request
  formIds := request.catalog.map (·.formId)
  site := request.site
  filters := stages.filters
  grouping := stages.grouping
  aggregates := stages.aggregates.columns
  calculations := stages.calculations
  sort := SortKey.ofOrders stages.columns request.selected stages.aggregates.names
    request.config.sortOrders
  columns := stages.columns

def summary (stages : PlanStages) (request : PlanRequest) : PlanSummary where
  mode := stages.mode request
  forms := request.catalog.length
  grouping := stages.grouping.length
  aggregates := stages.aggregates.columns.length
  calculations := stages.calculations.length
  filters := stages.filters.length
  aliases := stages.aggregates.aliasCount
  ignoredSorts := request.config.sortOrders.length - (stages.plan request).sort.length

/-- Without sort orders nothing is sorted by. -/
theorem sort_plan {stages : PlanStages} {request : PlanRequest}
    (unsorted : request.config.sortOrders = []) : (stages.plan request).sort = [] := by
  change SortKey.ofOrders _ _ _ request.config.sortOrders = []
  rw [unsorted]
  rfl

/-- Whether these are the results of the stages, each of them a success. -/
structure Accepted (stages : PlanStages) (settings : Settings) (request : PlanRequest) : Prop where
  asked : PlanRequest.isEmpty request.config = false
  selected : checkSelected request.catalog request.selected = .ok ()
  aggregates :
    AggregatePlan.ofAggregations request.catalog settings request.aggregations =
      .ok stages.aggregates
  grouping :
    GroupingKey.ofFields request.catalog (groupingFields request.selected request.aggregations) =
      .ok stages.grouping
  calculations :
    ((stages.scope settings request).columns request.catalog stages.taken
      request.config.calculations).result = .ok stages.calculations
  filters :
    request.config.filters.mapM (RowFilter.ofFilter request.catalog) = .ok stages.filters
  shown : stages.columns ≠ []

end PlanStages

/-- A selected field that passes the check is a field of its form. -/
theorem exists_of_checkSelected {catalog : Catalog} {selected : List SelectedField}
    (checked : checkSelected catalog selected = .ok ()) {field : SelectedField}
    (inside : field ∈ selected) : ∃ form declared, catalog.form? field.formId = some form ∧
      form.fieldById? field.fieldId = some declared := by
  unfold checkSelected at checked
  split at checked
  · cases checked
  · rename_i all
    have known := List.find?_eq_none.mp all field inside
    rw [Option.isNone_iff_eq_none, ← ne_eq, Option.ne_none_iff_exists'] at known
    obtain ⟨declared, known⟩ := known
    obtain ⟨form, listed, own⟩ := Option.bind_eq_some_iff.mp known
    exact ⟨form, declared, listed, own⟩

namespace PlanRequest

theorem compile_ok {settings : Settings} {request : PlanRequest} {plan : Plan}
    {summary : PlanSummary} (success : (request.compile settings).result = .ok (plan, summary)) :
    ∃ stages : PlanStages, stages.Accepted settings request ∧ plan = stages.plan request := by
  unfold compile at success
  cases asked : isEmpty request.config with
  | true =>
    simp only [asked, ↓reduceIte, Traced.result_fail, reduceCtorEq] at success
  | false =>
    simp only [asked, Bool.false_eq_true, ↓reduceIte, Traced.result_bind, Traced.result_ofExcept]
      at success
    obtain ⟨_, selected, success⟩ := bind_eq_ok.mp success
    obtain ⟨aggregates, aggregated, success⟩ := bind_eq_ok.mp success
    obtain ⟨grouping, grouped, success⟩ := bind_eq_ok.mp success
    obtain ⟨calculations, calculated, success⟩ := bind_eq_ok.mp success
    obtain ⟨filters, filtered, success⟩ := bind_eq_ok.mp success
    split at success
    · cases success
    · rename_i shown
      cases success
      refine ⟨⟨aggregates, grouping, calculations, filters⟩, ?_, rfl⟩
      refine ⟨asked, selected, aggregated, grouped, calculated, filtered, ?_⟩
      rwa [List.isEmpty_iff] at shown

/-- Stages that all succeed make a plan. -/
theorem compile_of_accepted {settings : Settings} {request : PlanRequest} {stages : PlanStages}
    (accepted : stages.Accepted settings request) :
    (request.compile settings).result = .ok (stages.plan request, stages.summary request) := by
  unfold compile
  simp only [accepted.asked, Bool.false_eq_true, ↓reduceIte, Traced.result_bind,
    Traced.result_ofExcept]
  refine bind_eq_ok.mpr ⟨(), accepted.selected, bind_eq_ok.mpr ⟨_, accepted.aggregates,
    bind_eq_ok.mpr ⟨_, accepted.grouping, bind_eq_ok.mpr ⟨_, accepted.calculations,
      bind_eq_ok.mpr ⟨_, accepted.filters, ?_⟩⟩⟩⟩⟩
  have shown : stages.columns.isEmpty = false := List.isEmpty_eq_false_iff.mpr accepted.shown
  unfold PlanStages.columns PlanStages.taken at shown
  rw [shown]
  rfl

/-- A plan and its summary are those of the stages. -/
theorem summary_of_compile {settings : Settings} {request : PlanRequest} {plan : Plan}
    {summary : PlanSummary} (success : (request.compile settings).result = .ok (plan, summary)) :
    ∃ stages : PlanStages, stages.Accepted settings request ∧ plan = stages.plan request ∧
      summary = stages.summary request := by
  obtain ⟨stages, accepted, rfl⟩ := compile_ok success
  rw [compile_of_accepted accepted, Except.ok.injEq, Prod.mk.injEq] at success
  exact ⟨stages, accepted, rfl, success.2.symm⟩

end PlanRequest

end FormReport
