import FormReport.Proofs.Base

set_option autoImplicit false

/- Calculations are a frame. Two reports that differ in nothing else have the same rows, row by row,
outside the columns of calculations, and a calculation that both have gives the same cells in both. -/
namespace FormReport

/-- A report with other calculations. -/
def ReportConfig.withCalculations (config : ReportConfig) (calculations : List Calculation) :
    ReportConfig :=
  { config with calculations }

def PlanRequest.withCalculations (request : PlanRequest) (calculations : List Calculation) :
    PlanRequest :=
  { request with config := request.config.withCalculations calculations }

@[simp] theorem Mode.isGrouped_select (hasAggregations hasCalculations : Bool) :
    (select hasAggregations hasCalculations).isGrouped = hasAggregations := by
  cases hasAggregations <;> cases hasCalculations <;> rfl

/-- Whether two rows both have a cell in a column, and the same one. -/
def ResultRow.Agree (row other : ResultRow) (column : String) : Prop :=
  ∃ cell, row.get? column = some cell ∧ other.get? column = some cell

namespace AggregatePlan

/-- Every aggregation has a column for its field, its own or that of one that it repeats. -/
theorem exists_column_of_aggregation {catalog : Catalog} {settings : Settings}
    {aggregations : List Aggregation} {plan : AggregatePlan}
    (built : ofAggregations catalog settings aggregations = .ok plan) :
    ∀ aggregation ∈ aggregations, ∃ planned ∈ plan.columns,
      planned.fieldId = aggregation.fieldId := by
  refine foldlM_keeps (fun taken plan => ∀ aggregation ∈ taken, ∃ planned ∈ plan.columns,
    planned.fieldId = aggregation.fieldId) ?_ [] aggregations ⟨[], 0⟩ plan nofun built
  intro taken before aggregation after held added other inside
  rcases add_ok added with ⟨covered, rfl⟩ | ⟨_, field, accessor, _, _, _, _, rfl⟩
  · rcases List.mem_append.mp inside with earlier | last
    · exact held other earlier
    · rw [List.mem_singleton.mp last]
      obtain ⟨planned, known, repeats⟩ := List.any_eq_true.mp covered
      simp only [Bool.and_eq_true, decide_eq_true_eq] at repeats
      exact ⟨planned, known, repeats.1.2⟩
  · rcases List.mem_append.mp inside with earlier | last
    · obtain ⟨planned, known, same⟩ := held other earlier
      exact ⟨planned, List.mem_append_left _ known, same⟩
    · rw [List.mem_singleton.mp last]
      exact ⟨_, List.mem_append_right _ (List.mem_singleton_self _), rfl⟩

/-- What names no aggregate is the id of no aggregated field. -/
theorem fieldId_ne_of_column?_eq_none {plan : AggregatePlan} {reference : String}
    (none : AggregateName.column? plan.names reference = none) :
    ∀ planned ∈ plan.columns, planned.fieldId ≠ reference := by
  intro planned known same
  rw [AggregateName.column?, Option.map_eq_none_iff, Option.or_eq_none_iff,
    List.find?_eq_none] at none
  have absent := none.1 _ (List.mem_map_of_mem known)
  simp [same] at absent

end AggregatePlan

namespace PlanStages

variable {stages : PlanStages} {settings : Settings} {request : PlanRequest}

/-- The first selected field with an id that no aggregate goes by is displayed. -/
theorem Accepted.displayed_of_selected (accepted : stages.Accepted settings request)
    {reference : String} {hit : SelectedField}
    (none : AggregateName.column? stages.aggregates.names reference = none)
    (found : request.selected.find? (·.fieldId = reference) = some hit) :
    hit ∈ groupingFields request.selected request.aggregations := by
  have named : hit.fieldId = reference := by simpa using List.find?_some found
  refine List.mem_filter.mpr ⟨List.mem_of_find?_eq_some found, ?_⟩
  simp only [Bool.not_eq_true', List.any_eq_false, decide_eq_true_eq]
  intro aggregation inside same
  obtain ⟨planned, known, own⟩ :=
    AggregatePlan.exists_column_of_aggregation accepted.aggregates aggregation inside
  exact AggregatePlan.fieldId_ne_of_column?_eq_none none planned known
    ((own.trans same).trans named)

theorem Accepted.column_mem_taken (accepted : stages.Accepted settings request)
    {field : SelectedField}
    (displayed : field ∈ groupingFields request.selected request.aggregations) :
    field.column request.catalog ∈ stages.taken := by
  refine List.mem_append_left _ ?_
  rw [GroupingKey.columns_ofFields accepted.grouping, List.mem_eraseDups]
  exact List.mem_map_of_mem displayed

/-- Under a given name it is displayed under that name. -/
theorem Accepted.mem_taken_of_selected (accepted : stages.Accepted settings request)
    {reference : String} {hit : SelectedField}
    (none : AggregateName.column? stages.aggregates.names reference = none)
    (found : request.selected.find? (·.fieldId = reference) = some hit)
    (given : Text.trim hit.fieldName ≠ "") : Text.trim hit.fieldName ∈ stages.taken := by
  have column : hit.column request.catalog = Text.trim hit.fieldName := if_pos given
  rw [← column]
  exact accepted.column_mem_taken (accepted.displayed_of_selected none found)

/-- A sort order that does not name a calculation means the same as if there were none. -/
theorem Accepted.sortColumn_eq (accepted : stages.Accepted settings request) {order : SortOrder}
    (unnamed : order.field ∉ stages.calculations.map (·.column)) :
    order.column? stages.columns request.selected stages.aggregates.names =
      order.column? stages.taken request.selected stages.aggregates.names := by
  have here : order.field ∈ stages.columns ↔ order.field ∈ stages.taken := by
    rw [columns, List.mem_append, or_iff_left unnamed]
  unfold SortOrder.column?
  simp only [here]
  split
  · rfl
  · cases aggregated : AggregateName.column? stages.aggregates.names order.field with
    | some column => rfl
    | none =>
      cases found : request.selected.find? (·.fieldId = order.field) with
      | none => rfl
      | some hit =>
        -- A given name is that of a display column; without one there is no column to sort by
        -- among the calculations, since these have names.
        have same : stages.columns.contains (Text.trim hit.fieldName) =
            stages.taken.contains (Text.trim hit.fieldName) := by
          rw [Bool.eq_iff_iff, List.contains_iff_mem, List.contains_iff_mem, columns,
            List.mem_append, or_iff_left_of_imp]
          intro calculated
          exact accepted.mem_taken_of_selected aggregated found
            (accepted.fresh_calculations.1 _ calculated).1
        simp only [Option.map_some, Option.filter_some, same]

theorem Accepted.sort_eq (accepted : stages.Accepted settings request)
    (unsorted : ∀ order ∈ request.config.sortOrders, ∀ calculation ∈ request.config.calculations,
      order.field ≠ Text.trim calculation.name) :
    (stages.plan request).sort = SortKey.ofOrders stages.taken request.selected
      stages.aggregates.names request.config.sortOrders := by
  apply List.filterMap_congr
  intro order inside
  rw [accepted.sortColumn_eq]
  rw [accepted.calculation_names, List.mem_map]
  rintro ⟨calculation, asked, same⟩
  exact unsorted order inside calculation asked same.symm

/-- What planning gives apart from the calculations does not depend on them. -/
theorem Accepted.unique {others : PlanStages} {calculations : List Calculation}
    (accepted : stages.Accepted settings request)
    (again : others.Accepted settings (request.withCalculations calculations)) :
    others.aggregates = stages.aggregates ∧ others.grouping = stages.grouping ∧
      others.filters = stages.filters :=
  ⟨Except.ok.inj (again.aggregates.symm.trans accepted.aggregates),
    Except.ok.inj (again.grouping.symm.trans accepted.grouping),
    Except.ok.inj (again.filters.symm.trans accepted.filters)⟩

end PlanStages

theorem Group.add_congr {first second : Plan} (same : first.aggregates = second.aggregates)
    (cells : List Cell) (inputs : List (Option Cell)) (groups : List Group) :
    add first cells inputs groups = add second cells inputs groups := by
  induction groups with
  | nil => simp only [add, start, same]
  | cons group rest ih => simp only [add, ih]

namespace Plan

variable {first second : Plan}

/-- Groups and their rows depend on what is grouped by and what is aggregated. -/
theorem aggregate_congr (grouping : first.grouping = second.grouping)
    (aggregates : first.aggregates = second.aggregates) (rows : List StoredRow) :
    first.aggregate rows = second.aggregate rows := by
  have initial : first.initialGroups = second.initialGroups := by
    simp only [initialGroups, Group.start, grouping, aggregates]
  have step : first.group = second.group := by
    funext groups row
    simp only [group, grouping, aggregates, Group.add_congr aggregates]
  have finish : first.groupRow = second.groupRow := by
    funext group
    simp only [groupRow, groupingColumns, grouping, aggregates]
  simp only [aggregate, initial, step, finish]

/-- Whether two plans differ in their calculations only. Their modes may differ, for without
calculations there is no second stage. -/
structure SameFrame (first second : Plan) : Prop where
  grouped : first.mode.isGrouped = second.mode.isGrouped
  formIds : first.formIds = second.formIds
  site : first.site = second.site
  filters : first.filters = second.filters
  grouping : first.grouping = second.grouping
  aggregates : first.aggregates = second.aggregates

/-- Plans of one frame put their calculations behind the same bases. -/
theorem SameFrame.bases_eq (same : first.SameFrame second) (rows : List StoredRow) :
    first.bases rows = second.bases rows := by
  have raw : first.rawBase = second.rawBase := by
    funext row
    simp only [rawBase, same.grouping]
  simp only [bases, same.grouped, aggregate_congr same.grouping same.aggregates, raw]

end Plan

namespace PlanStages

variable {stages others : PlanStages} {settings : Settings} {request : PlanRequest}
  {calculations : List Calculation}

theorem Accepted.sameFrame (accepted : stages.Accepted settings request)
    (again : others.Accepted settings (request.withCalculations calculations)) :
    (stages.plan request).SameFrame (others.plan (request.withCalculations calculations)) := by
  obtain ⟨aggregates, grouping, filters⟩ := accepted.unique again
  refine ⟨?_, rfl, rfl, filters.symm, grouping.symm,
    congrArg AggregatePlan.columns aggregates.symm⟩
  change (stages.mode request).isGrouped = (others.mode _).isGrouped
  rw [mode, mode, aggregates, Mode.isGrouped_select, Mode.isGrouped_select]

/-- A calculation has the same formula in every report of one frame. -/
theorem Accepted.same_formula (accepted : stages.Accepted settings request)
    (again : others.Accepted settings (request.withCalculations calculations))
    {one two : Calculation} (inside : one ∈ request.config.calculations)
    (within : two ∈ calculations) (name : Text.trim one.name = Text.trim two.name)
    (expression : one.expression = two.expression) :
    ∃ planned ∈ stages.calculations, ∃ other ∈ others.calculations,
      planned.column = Text.trim one.name ∧ other.column = Text.trim one.name ∧
        planned.formula = other.formula := by
  obtain ⟨aggregates, grouping, _⟩ := accepted.unique again
  obtain ⟨planned, paired, made⟩ :=
    exists_of_forall₂ (CalculationScope.columns_ok accepted.calculations) inside
  obtain ⟨other, pairedOther, madeOther⟩ :=
    exists_of_forall₂ (CalculationScope.columns_ok again.calculations) within
  have mode : stages.mode request = others.mode (request.withCalculations calculations) := by
    have some : request.config.calculations.isEmpty = false :=
      List.isEmpty_eq_false_iff.mpr (List.ne_nil_of_mem inside)
    have someOther : calculations.isEmpty = false :=
      List.isEmpty_eq_false_iff.mpr (List.ne_nil_of_mem within)
    rw [PlanStages.mode, PlanStages.mode, aggregates, some]
    change _ = Mode.select _ (!calculations.isEmpty)
    rw [someOther]
  have scope : stages.scope settings request =
      others.scope settings (request.withCalculations calculations) := by
    rw [PlanStages.scope, PlanStages.scope, mode, aggregates, grouping]
  have lowered := made.formula
  have loweredOther := madeOther.formula
  rw [made.column, scope] at lowered
  rw [madeOther.column, ← name, ← expression] at loweredOther
  exact ⟨planned, (List.of_mem_zip paired).2, other, (List.of_mem_zip pairedOther).2, made.column,
    madeOther.column.trans name.symm, Except.ok.inj (lowered.symm.trans loweredOther)⟩

/-- Rows that come from one base agree outside the columns of calculations, and in those of the
calculations that are in both reports. -/
theorem Accepted.agree_of_base (accepted : stages.Accepted settings request)
    (again : others.Accepted settings (request.withCalculations calculations)) {base : Base}
    {row another : ResultRow} (extended : (stages.plan request).extend base = .ok row)
    (extendedOther :
      (others.plan (request.withCalculations calculations)).extend base = .ok another) :
    (∀ column ∈ stages.taken, row.get? column = another.get? column) ∧
      ∀ one ∈ request.config.calculations, ∀ two ∈ calculations,
        Text.trim one.name = Text.trim two.name → one.expression = two.expression →
          row.Agree another (Text.trim one.name) := by
  constructor
  · intro column shared
    have absent : column ∉ stages.calculations.map (·.column) :=
      fun calculated => (accepted.fresh_calculations.1 column calculated).2 shared
    have sharedOther : column ∈ others.taken := by
      obtain ⟨aggregates, grouping, _⟩ := accepted.unique again
      rwa [taken, aggregates, grouping]
    have absentOther : column ∉ others.calculations.map (·.column) :=
      fun calculated => (again.fresh_calculations.1 column calculated).2 sharedOther
    rw [Plan.get?_of_extend extended absent, Plan.get?_of_extend extendedOther absentOther]
  · intro one inside two within name expression
    obtain ⟨planned, known, other, knownOther, column, columnOther, formula⟩ :=
      accepted.same_formula again inside within name expression
    obtain ⟨value, evaluated, cell⟩ :=
      Plan.get?_calculation_of_extend accepted.fresh_calculations.2 extended known
    obtain ⟨valueOther, evaluatedOther, cellOther⟩ :=
      Plan.get?_calculation_of_extend again.fresh_calculations.2 extendedOther knownOther
    rw [formula, evaluatedOther] at evaluated
    rw [column] at cell
    rw [columnOther, Except.ok.inj evaluated] at cellOther
    exact ⟨_, cell, cellOther⟩

end PlanStages

/-- Whether two backends hold the same forms and records; their reports may differ. -/
structure Source.SameData (first second : Source) : Prop where
  activeForms : first.activeForms = second.activeForms
  fields : first.fields = second.fields
  records : first.records = second.records

namespace Engine

theorem result_participatingForms {first second : Source} (data : first.SameData second)
    {report other : Report} (named : namedForms report.config = namedForms other.config) :
    (participatingForms first report).result = (participatingForms second other).result := by
  simp only [participatingForms, Traced.result_bind, Traced.result_mapM, Traced.result_noteIf,
    data.activeForms, data.fields, named]

end Engine

namespace ResultRow

/-- Rows that agree in the display columns are totals together. -/
theorem forall₂_dropTotals {Related : ResultRow → ResultRow → Prop} {columns : List String}
    (agree : ∀ row other, Related row other →
      ∀ column ∈ columns, row.get? column = other.get? column)
    {rows others : List ResultRow} (related : List.Forall₂ Related rows others) :
    List.Forall₂ Related (dropTotals columns rows) (dropTotals columns others) := by
  unfold dropTotals
  split
  · exact related
  · refine List.rel_filter (fun row other pair => ?_) related
    have same : isTotal columns row = isTotal columns other := by
      unfold isTotal
      rw [Bool.eq_iff_iff, List.all_eq_true, List.all_eq_true]
      refine forall₂_congr fun column inside => ?_
      rw [agree row other pair column inside]
    simp only [same]

theorem orderBy_congr {units : Char → List Char} {row other left right : ResultRow}
    {keys : List SortKey}
    (first : ∀ key ∈ keys, row.get? key.column = left.get? key.column)
    (second : ∀ key ∈ keys, other.get? key.column = right.get? key.column) :
    orderBy units keys row other = orderBy units keys left right := by
  induction keys with
  | nil => rfl
  | cons key rest ih =>
    have later := ih (fun key inside => first key (List.mem_cons_of_mem _ inside))
      (fun key inside => second key (List.mem_cons_of_mem _ inside))
    rw [orderBy, orderBy, later, orderByKey, orderByKey, first key List.mem_cons_self,
      second key List.mem_cons_self]

/-- Rows that agree in the columns to sort by are sorted alike. -/
theorem forall₂_sort {units : Char → List Char} {Related : ResultRow → ResultRow → Prop}
    {keys : List SortKey}
    (agree : ∀ row other, Related row other →
      ∀ key ∈ keys, row.get? key.column = other.get? key.column)
    {rows others : List ResultRow} (related : List.Forall₂ Related rows others) :
    List.Forall₂ Related (sort units keys rows) (sort units keys others) := by
  unfold sort
  split
  · exact related
  · refine forall₂_mergeSort (fun row other left right pair another => ?_) related
    rw [orderBy_congr (agree row other pair) (agree left right another)]

end ResultRow

theorem PlanStages.Accepted.mem_taken_of_sort {stages : PlanStages} {settings : Settings}
    {request : PlanRequest} (accepted : stages.Accepted settings request)
    (unsorted : ∀ order ∈ request.config.sortOrders, ∀ calculation ∈ request.config.calculations,
      order.field ≠ Text.trim calculation.name) :
    ∀ key ∈ (stages.plan request).sort, key.column ∈ stages.taken := by
  intro key inside
  rw [accepted.sort_eq unsorted] at inside
  obtain ⟨order, _, found⟩ := List.mem_filterMap.mp inside
  obtain ⟨column, named, rfl⟩ := Option.map_eq_some_iff.mp found
  refine SortOrder.mem_of_column? (fun name aggregated => ?_) named
  rw [PlanStages.columns_names] at aggregated
  exact List.mem_append_right _ aggregated

namespace Execution

/-- An execution is of the report that is stored. -/
theorem Of.report_eq {context : Engine.Context} {reportId : String} {requester : Requester}
    {execution : Execution} (of : execution.Of context reportId requester) {report : Report}
    (stored : context.source.report? reportId = .ok (some report)) : execution.report = report :=
  Option.some.inj (Except.ok.inj ((Engine.openReport_ok of.opened).symm.trans stored))

theorem Of.fits {context : Engine.Context} {reportId : String} {requester : Requester}
    {execution : Execution} (of : execution.Of context reportId requester) {row : ResultRow}
    (inside : row ∈ execution.data context.units) : row.Fits execution.plan.columns := by
  obtain ⟨rows, kept, _, _, materialized⟩ := Engine.run_ok of.carriedOut
  exact (PlanRequest.closed_of_compile of.compiled).fits materialized (mem_finished inside)

/-- Two executions in one frame give the same bases their calculations. -/
theorem sameBases {settings : Settings} {units : Char → List Char} {first second : Source}
    {firstId secondId : String} {requester : Requester} {execution other : Execution}
    (of : execution.Of ⟨first, settings, units⟩ firstId requester)
    (ofOther : other.Of ⟨second, settings, units⟩ secondId requester) (data : first.SameData second)
    (frame : execution.plan.SameFrame other.plan) (closed : execution.plan.Closed)
    (closedOther : other.plan.Closed) :
    List.Forall₂ (fun row another => ∃ base, execution.plan.extend base = .ok row ∧
      other.plan.extend base = .ok another) execution.finished other.finished := by
  have queried := of.queried
  have queriedOther := ofOther.queried
  dsimp only at queried queriedOther
  rw [data.records, frame.formIds, frame.site, queriedOther] at queried
  obtain ⟨rows, kept, expanded, filtered, materialized⟩ := Engine.run_ok of.carriedOut
  obtain ⟨rowsOther, keptOther, expandedOther, filteredOther, materializedOther⟩ :=
    Engine.run_ok ofOther.carriedOut
  have scope : Engine.inScope execution.plan = Engine.inScope other.plan := by
    funext record
    rw [Engine.inScope, Engine.inScope, frame.formIds, frame.site]
  rw [Engine.result_expand, scope, ← Except.ok.inj queried] at expanded
  rw [Engine.result_expand, expanded] at expandedOther
  rw [frame.filters, Except.ok.inj expandedOther, filteredOther] at filtered
  obtain ⟨bases, made, extended⟩ := Plan.bases_of_materialize closed materialized
  obtain ⟨basesOther, madeOther, extendedOther⟩ :=
    Plan.bases_of_materialize closedOther materializedOther
  rw [frame.bases_eq, ← Except.ok.inj filtered, madeOther] at made
  rw [Except.ok.inj made] at extendedOther
  exact forall₂_of_common extended extendedOther

/-- Dropping totals and sorting keep the pairs, for they look at shared columns only. -/
theorem sameBases_data {settings : Settings} {units : Char → List Char} {first second : Source}
    {firstId secondId : String} {requester : Requester} {execution other : Execution}
    (of : execution.Of ⟨first, settings, units⟩ firstId requester)
    (ofOther : other.Of ⟨second, settings, units⟩ secondId requester) (data : first.SameData second)
    {request : PlanRequest} {calculations : List Calculation} {stages others : PlanStages}
    (accepted : stages.Accepted settings request)
    (again : others.Accepted settings (request.withCalculations calculations))
    (planned : execution.plan = stages.plan request)
    (plannedOther : other.plan = others.plan (request.withCalculations calculations))
    (unsorted : ∀ order ∈ request.config.sortOrders,
      ∀ calculation ∈ request.config.calculations ++ calculations,
        order.field ≠ Text.trim calculation.name) :
    List.Forall₂ (fun row another => ∃ base, execution.plan.extend base = .ok row ∧
      other.plan.extend base = .ok another) (execution.data units) (other.data units) := by
  have frame := accepted.sameFrame again
  have sorted := accepted.sort_eq fun order inside calculation member =>
    unsorted order inside calculation (List.mem_append_left _ member)
  have sortedOther := again.sort_eq fun order inside calculation member =>
    unsorted order inside calculation (List.mem_append_right _ member)
  have shown := accepted.mem_taken_of_sort fun order inside calculation member =>
    unsorted order inside calculation (List.mem_append_left _ member)
  have keys : (others.plan (request.withCalculations calculations)).sort =
      (stages.plan request).sort := by
    obtain ⟨aggregates, grouping, _⟩ := accepted.unique again
    rw [sorted, sortedOther, PlanStages.taken, PlanStages.taken, aggregates, grouping]
    rfl
  have related := sameBases of ofOther data (planned ▸ plannedOther ▸ frame)
    (planned ▸ accepted.closed) (plannedOther ▸ again.closed)
  have agree : ∀ row another, (∃ base, execution.plan.extend base = .ok row ∧
      other.plan.extend base = .ok another) →
        ∀ column ∈ stages.taken, row.get? column = another.get? column := by
    rw [planned, plannedOther]
    rintro row another ⟨base, extended, extendedOther⟩
    exact (accepted.agree_of_base again extended extendedOther).1
  have columns : other.plan.groupingColumns = execution.plan.groupingColumns := by
    rw [planned, plannedOther, Plan.groupingColumns, Plan.groupingColumns, frame.grouping]
  have order : other.plan.sort = execution.plan.sort := by
    rw [planned, plannedOther, keys]
  unfold Execution.data
  rw [columns, order]
  refine ResultRow.forall₂_sort (fun row another pair key inside => ?_)
    (ResultRow.forall₂_dropTotals (fun row another pair column inside => ?_) related)
  · rw [planned] at inside
    exact agree row another pair _ (shown key inside)
  · rw [planned] at inside
    exact agree row another pair _ (List.mem_append_left _ inside)

end Execution

namespace Engine

/-- Two reports that differ in their calculations only, and are not sorted by any, have the same rows
in the same order: in place they agree in all columns but those of calculations, and in those of the
calculations that are in both. -/
theorem execute_calculations_frame (settings : Settings) (units : Char → List Char)
    (first second : Source) (data : first.SameData second) (firstId secondId : String)
    (requester : Requester) (report other : Report) (stored : first.report? firstId = .ok (some report))
    (storedOther : second.report? secondId = .ok (some other))
    (frame : other.config = report.config.withCalculations other.config.calculations)
    (unsorted : ∀ order ∈ report.config.sortOrders,
      ∀ calculation ∈ report.config.calculations ++ other.config.calculations,
        order.field ≠ Text.trim calculation.name)
    (output outputOther : ReportOutput)
    (success : (execute ⟨first, settings, units⟩ firstId requester).result = .ok output)
    (successOther : (execute ⟨second, settings, units⟩ secondId requester).result = .ok outputOther) :
    ∃ shared : List String,
      output.columns =
        shared ++ report.config.calculations.map (fun calculation => Text.trim calculation.name) ∧
      outputOther.columns =
        shared ++ other.config.calculations.map (fun calculation => Text.trim calculation.name) ∧
      List.Forall₂ (fun row another => (∀ column ∈ shared, row.Agree another column) ∧
        ∀ calculation ∈ report.config.calculations, ∀ again ∈ other.config.calculations,
          Text.trim calculation.name = Text.trim again.name →
          calculation.expression = again.expression →
            row.Agree another (Text.trim calculation.name)) output.data outputOther.data := by
  obtain ⟨execution, of, rfl⟩ := Execution.of_execute success
  obtain ⟨executionOther, ofOther, rfl⟩ := Execution.of_execute successOther
  -- Both executions are of the reports in question, and they plan over the same catalog.
  have opened : execution.report = report := of.report_eq stored
  have openedOther : executionOther.report = other := ofOther.report_eq storedOther
  have catalog : executionOther.catalog = execution.catalog := by
    have named : namedForms execution.report.config = namedForms executionOther.report.config := by
      rw [opened, openedOther, frame]
      rfl
    have listed := ofOther.listed
    rw [← result_participatingForms data named, of.listed] at listed
    exact (Except.ok.inj listed).symm
  obtain ⟨stages, accepted, planned⟩ := PlanRequest.compile_ok of.compiled
  obtain ⟨others, again, plannedOther⟩ := PlanRequest.compile_ok ofOther.compiled
  rw [opened] at accepted planned
  rw [openedOther, catalog, frame] at again plannedOther
  have related := Execution.sameBases_data of ofOther data accepted again planned plannedOther
    unsorted
  have whole : ∀ row ∈ execution.data units, row.Fits stages.columns := by
    intro row inside
    have fits := of.fits inside
    rwa [planned] at fits
  refine ⟨stages.taken, ?_, ?_, ?_⟩
  · change execution.plan.columns = _
    rw [planned, ← accepted.calculation_names]
    rfl
  · obtain ⟨aggregates, grouping, _⟩ := accepted.unique again
    have names := again.calculation_names
    change executionOther.plan.columns = _
    rw [plannedOther, PlanStages.taken, ← aggregates, ← grouping]
    exact congrArg (others.taken ++ ·) names
  · refine ((List.forall₂_and_left _ _).mpr ⟨whole, related⟩).imp ?_
    rintro row another ⟨fits, base, extended, extendedOther⟩
    rw [planned] at extended
    rw [plannedOther] at extendedOther
    obtain ⟨same, calculated⟩ := accepted.agree_of_base again extended extendedOther
    refine ⟨fun column inside => ?_, calculated⟩
    obtain ⟨cell, found⟩ := fits.exists_cell (List.mem_append_left _ inside)
    exact ⟨cell, found, (same column inside).symm.trans found⟩

/-- The weights of a pond for each of its notes, the heaviest first. -/
def heaviest (calculations : List Calculation) : ReportConfig :=
  { ReportConfig.empty with
    selectedForms := ["pond"]
    selectedFields := [⟨"pond", "note", ""⟩]
    aggregations := [⟨"pond", "w", "", .sum⟩]
    calculations
    sortOrders := [⟨"w", .desc⟩] }

def doubleOnly : List Calculation := [⟨"Double", "w + w"⟩]

def doubleLast : List Calculation := [⟨"Rest", "Weight - w"⟩, ⟨" Double ", "w + w"⟩]

/-- A report with one calculation, and one with another calculation before it. -/
def heaviestSource : Source where
  activeForms := .ok [.create "pond" "Pond" []]
  fields _ _ := .ok [.plain "w" "Weight" .number, .plain "note" "Note" .text]
  records _ _ := .ok [⟨"r1", "pond", "north", "ann", [
    .object [("w", .integer 5), ("note", .text "clear")],
    .object [("w", .integer 14), ("note", .text "0")],
    .object [("w", .integer 9), ("note", .text "mud")]], []⟩]
  report? reportId := .ok (some ⟨reportId, "Weights", "head",
    heaviest (if reportId = "short" then doubleOnly else doubleLast)⟩)

theorem execute_calculations_frame_heaviest :
    ∃ output outputOther,
      (execute (.plain heaviestSource) "short" ⟨"ann", "admin", none⟩).result = .ok output ∧
      (execute (.plain heaviestSource) "long" ⟨"ann", "admin", none⟩).result =
        .ok outputOther ∧
      output.columns = ["Note", "Weight_sum", "Double"] ∧
      outputOther.columns = ["Note", "Weight_sum", "Rest", "Double"] ∧
      List.Forall₂ (fun row another => row.Agree another "Note" ∧
        row.Agree another "Weight_sum" ∧ row.Agree another "Double") output.data
        outputOther.data := by
  have short : (execute (.plain heaviestSource) "short" ⟨"ann", "admin", none⟩).result.map
      (·.columns) = .ok ["Note", "Weight_sum", "Double"] := by decide +kernel
  have long : (execute (.plain heaviestSource) "long" ⟨"ann", "admin", none⟩).result.map
      (·.columns) = .ok ["Note", "Weight_sum", "Rest", "Double"] := by decide +kernel
  cases made : (execute (.plain heaviestSource) "short" ⟨"ann", "admin", none⟩).result with
  | error error =>
    rw [made] at short
    cases short
  | ok output =>
    cases madeOther :
        (execute (.plain heaviestSource) "long" ⟨"ann", "admin", none⟩).result with
    | error error =>
      rw [madeOther] at long
      cases long
    | ok outputOther =>
      rw [made] at short
      rw [madeOther] at long
      have columns : output.columns = _ := Except.ok.inj short
      obtain ⟨shared, split, _, agree⟩ := execute_calculations_frame .default Text.lowerUnits
        heaviestSource heaviestSource ⟨rfl, rfl, rfl⟩ "short" "long" ⟨"ann", "admin", none⟩ _ _ rfl rfl rfl
        (by decide +kernel) output outputOther made madeOther
      have taken : shared = ["Note", "Weight_sum"] := by
        rw [columns] at split
        exact (List.append_cancel_right split).symm
      refine ⟨output, outputOther, rfl, rfl, columns, Except.ok.inj long, ?_⟩
      refine agree.imp fun row another same => ⟨same.1 _ (by simp [taken]),
        same.1 _ (by simp [taken]), same.2 ⟨"Double", "w + w"⟩ ?_ ⟨" Double ", "w + w"⟩ ?_ ?_ rfl⟩
      · decide +kernel
      · decide +kernel
      · decide +kernel

end Engine

end FormReport
