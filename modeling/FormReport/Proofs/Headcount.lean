import FormReport.Proofs.Aggregates
import FormReport.Proofs.Arrival
import FormReport.Proofs.Finiteness
import FormReport.Proofs.Whole

set_option autoImplicit false

/- Sums that are rounded. An aggregate that is marked as a count of things is a whole number in every
row of a report; it is marked by the name under which it was planned first. -/
namespace FormReport

namespace Number

theorem roundHalfAway_of_not_finite {x : Float} (endless : x.isFinite = false) :
    roundHalfAway x = x := by
  have full : exponentField x.toBits.toNat = 2047 := by
    by_contra free
    have finite : x.isFinite = true := isFinite_iff.mpr free
    rw [endless] at finite
    cases finite
  simp [roundHalfAway, full]

/-- What is finite after it was rounded is whole. -/
theorem exists_integer?_of_isFinite_roundHalfAway {x : Float}
    (finite : (roundHalfAway x).isFinite = true) :
    ∃ whole, integer? (roundHalfAway x) = some whole := by
  apply exists_integer?_roundHalfAway
  by_contra endless
  rw [Bool.not_eq_true] at endless
  rw [roundHalfAway_of_not_finite endless, endless] at finite
  cases finite

end Number

/-- Whether a row has a whole number in a column. -/
def ResultRow.IsWhole (row : ResultRow) (column : String) : Prop :=
  ∃ value whole, row.get? column = some (.number value) ∧ Number.integer? value = some whole

namespace Accumulator

theorem function_push (state : Accumulator) (cell : Cell) :
    (state.push cell).function = state.function := by
  unfold push
  split
  · split <;> rfl
  · split <;> rfl

theorem function_foldl_push (cells : List Cell) (state : Accumulator) :
    (cells.foldl push state).function = state.function := by
  induction cells generalizing state with
  | nil => rfl
  | cons cell rest ih => rw [List.foldl_cons, ih, function_push]

/-- A rounded sum is whole if it does not overflow, and zero where nothing was taken in. -/
theorem exists_integer?_finish {state : Accumulator} (sum : state.function = .sum)
    (finite : (state.finish true).isFinite = true) :
    ∃ whole, Number.integer? (state.finish true) = some whole := by
  unfold finish at finite ⊢
  split
  · exact ⟨0, by decide +kernel⟩
  · rename_i some
    rw [if_neg some, sum] at finite
    rw [sum]
    exact Number.exists_integer?_of_isFinite_roundHalfAway finite

end Accumulator

theorem AggregateColumn.StateAfter.function_eq {planned : AggregateColumn} {rows : List StoredRow}
    {state : Accumulator} (after : planned.StateAfter rows state) :
    state.function = planned.function := by
  obtain ⟨cells, _, rfl⟩ := after
  exact Accumulator.function_foldl_push cells _

namespace Plan

variable {plan : Plan} {rows : List StoredRow}

/-- The row of a group has every aggregate under its own name, even where a grouping column had that
name before. -/
theorem get?_aggregate_of_groupRow {group : Group} (described : group.Describes plan rows)
    (distinct : (plan.aggregates.map (·.column)).Nodup) {row : ResultRow}
    (made : plan.groupRow group = .ok row) {planned : AggregateColumn}
    (inside : planned ∈ plan.aggregates) :
    ∃ state, planned.StateAfter rows state ∧
      (state.finish planned.roundsToInteger).isFinite = true ∧
        row.get? planned.column = some (.number (state.finish planned.roundsToInteger)) := by
  obtain ⟨values, valued, same⟩ := bind_eq_ok.mp made
  cases same
  have each := forall₂_of_zip described.states (mapM_eq_ok.mp valued)
  have names : plan.aggregates.map (·.column) = values.map Prod.fst := by
    refine map_eq_of_forall₂ each ?_
    rintro planned value ⟨state, _, computed⟩
    rw [aggregateCell_eq_ok computed]
  obtain ⟨value, paired, state, after, computed⟩ := exists_of_forall₂ each inside
  have finite := isFinite_of_aggregateCell computed
  have entry := (List.of_mem_zip paired).2
  rw [aggregateCell_eq_ok computed] at finite entry
  refine ⟨state, after, finite, ?_⟩
  rw [Keyed.ofList, List.foldl_append]
  exact Keyed.get?_foldl_set_of_mem (names ▸ distinct) entry _

/-- An aggregate that is a rounded sum is whole in every row of a plan. -/
theorem isWhole_of_materialize (closed : plan.Closed)
    (fresh : ∀ column ∈ plan.calculations.map (·.column),
      column ∉ plan.groupingColumns ++ plan.aggregates.map (·.column))
    (distinct : (plan.aggregates.map (·.column)).Nodup) {finished : List ResultRow}
    (success : plan.materialize rows = .ok finished) {planned : AggregateColumn}
    (inside : planned ∈ plan.aggregates) (sum : planned.function = .sum)
    (rounds : planned.roundsToInteger = true) :
    ∀ row ∈ finished, row.IsWhole planned.column := by
  have grouped : plan.mode.isGrouped = true := by
    cases mode : plan.mode with
    | raw =>
      rw [closed.raw mode] at inside
      cases inside
    | aggregate => rfl
    | aggregateThenCalculate => rfl
  obtain ⟨groups, aggregated, extended⟩ := groups_of_materialize closed grouped success
  intro row member
  obtain ⟨base, paired, calculated⟩ := exists_of_forall₂ extended.flip member
  obtain ⟨collected, states, each⟩ := bind_eq_ok.mp aggregated
  obtain ⟨group, known, made⟩ := exists_of_mem_mapM each (List.of_mem_zip paired).2
  have described := (Grouped.run states).described group known
  obtain ⟨state, after, finite, shown⟩ := get?_aggregate_of_groupRow described distinct made inside
  rw [rounds] at finite shown
  obtain ⟨whole, integral⟩ :=
    Accumulator.exists_integer?_finish (after.function_eq.trans sum) finite
  have apart : planned.column ∉ plan.calculations.map (·.column) := by
    intro calculation
    exact fresh _ calculation (List.mem_append_right _ (List.mem_map_of_mem inside))
  refine ⟨_, whole, ?_, integral⟩
  rw [get?_of_extend calculated apart]
  exact shown

end Plan

/-- The first of the aggregations that a column of a form in scope stands for is in scope itself. -/
theorem PlanRequest.find?_aggregations {request : PlanRequest} {planned : AggregateColumn}
    (inside : request.inScope planned.formId = true) :
    request.aggregations.find? planned.standsFor =
      request.config.aggregations.find? planned.standsFor := by
  rw [aggregations, List.find?_filter]
  congr 1
  funext aggregation
  rw [Bool.eq_iff_iff, decide_eq_true_eq, and_iff_right_iff_imp]
  intro stands
  rw [← (AggregateColumn.standsFor_iff.mp stands).1]
  exact inside

namespace Engine

/-- Every sum of a report has a column, which is named for the first sum of its form and field. Where
that name has the mark of a count, the column is whole in all rows. -/
theorem isWhole_of_execute {context : Context} {reportId : String} {requester : Requester}
    {output : ReportOutput}
    (success : (execute context reportId requester).result = .ok output) :
    ∃ execution : Execution, execution.Of context reportId requester ∧
      output = execution.output context.units ∧
      ∀ aggregation ∈ execution.report.config.aggregations, aggregation.function = .sum →
        (∃ form ∈ execution.catalog, form.formId = aggregation.formId) →
          ∃ planned ∈ execution.plan.aggregates, ∃ first field,
            planned.standsFor aggregation = true ∧
            execution.report.config.aggregations.find? planned.standsFor = some first ∧
            execution.catalog.field? aggregation.formId aggregation.fieldId = some field ∧
            planned.fieldName = AggregatePlan.fieldName first field ∧
            (context.settings.isIntegerQuantity planned.fieldName = true →
              ∀ row ∈ output.data, row.IsWhole planned.column) := by
  obtain ⟨execution, of, rfl⟩ := Execution.of_execute success
  refine ⟨execution, of, rfl, ?_⟩
  rintro aggregation asked sum ⟨form, inside, same⟩
  obtain ⟨stages, accepted, made⟩ := PlanRequest.compile_ok of.compiled
  have represents := AggregatePlan.represents_of_ofAggregations accepted.aggregates
  have inScope : PlanRequest.inScope
      ⟨execution.report.config, execution.catalog, requester.siteId⟩ aggregation.formId = true :=
    List.any_eq_true.mpr ⟨form, inside, decide_eq_true same⟩
  obtain ⟨planned, known, stands⟩ :=
    represents.complete aggregation (List.mem_filter.mpr ⟨asked, inScope⟩)
  obtain ⟨first, field, origin⟩ := represents.sound planned known
  obtain ⟨ofForm, ofField, ofFunction⟩ := AggregateColumn.standsFor_iff.mp stands
  have earliest := origin.earliest
  obtain ⟨firstForm, firstField, _⟩ :=
    AggregateColumn.standsFor_iff.mp (List.find?_some earliest)
  rw [PlanRequest.find?_aggregations (ofForm ▸ inScope)] at earliest
  have found := origin.known
  rw [← firstForm, ← firstField, ofForm, ofField] at found
  refine ⟨planned, made ▸ known, first, field, stands, earliest, found, origin.name, ?_⟩
  intro marked row member
  have rounds : planned.roundsToInteger = true := by
    rw [origin.rounds, ofFunction, sum, marked]
    rfl
  obtain ⟨_, _, _, _, materialized⟩ := run_ok of.carriedOut
  rw [made] at materialized
  exact Plan.isWhole_of_materialize accepted.closed
    (fun column calculated => (accepted.fresh_calculations.1 column calculated).2)
    (AggregatePlan.nodup_columns accepted.aggregates) materialized known (ofFunction.trans sum)
    rounds row (Execution.mem_finished member)

/-- A sum of counts under a name that the report gives, or else that of their field. -/
def tallyReport (name : String) : Report := ⟨"heads", "Heads", "head", { ReportConfig.empty with
  selectedForms := ["tally"]
  aggregations := [⟨"tally", "h", name, .sum⟩] }⟩

/-- Two counts that have fractions. -/
def tallySource (name : String) : Source where
  activeForms := .ok [.create "tally" "Tally" []]
  fields _ _ := .ok [.plain "h" "Head Count" .number]
  records _ _ := .ok [⟨"1", "tally", "north", "ann", [
    .object [("h", .decimal 1.25)], .object [("h", .decimal 2.5)]], []⟩]
  report? _ := .ok (some (tallyReport name))

theorem isWhole_of_execute_tally :
    ∃ output, (execute (.plain (tallySource "")) "heads" ⟨"ann", "admin", none⟩).result =
        .ok output ∧
      output.columns = ["Head Count_sum"] ∧
      output.data = [[("Head Count_sum", .number 4)]] ∧
      ∀ row ∈ output.data, row.IsWhole "Head Count_sum" := by
  have made : (execute (.plain (tallySource "")) "heads" ⟨"ann", "admin", none⟩).result.map
      (fun output => (output.columns, output.data)) =
        .ok (["Head Count_sum"], [[("Head Count_sum", .number 4)]]) := by decide +kernel
  obtain ⟨output, success, same⟩ := map_eq_ok.mp made
  obtain ⟨columns, data⟩ := Prod.mk.inj same
  refine ⟨output, success, columns, data, ?_⟩
  obtain ⟨execution, of, rfl, sums⟩ := isWhole_of_execute success
  have stored : execution.report = tallyReport "" := of.report_eq rfl
  have catalog : execution.catalog = [⟨"tally", [.plain "h" "Head Count" .number]⟩] := by
    have listed := of.listed
    rw [stored] at listed
    exact Except.ok.inj (listed.symm.trans rfl)
  rw [stored, catalog] at sums
  obtain ⟨planned, known, first, field, _, earliest, found, name, whole⟩ :=
    sums _ List.mem_cons_self rfl ⟨_, List.mem_cons_self, rfl⟩
  have marked : Settings.default.isIntegerQuantity planned.fieldName = true := by
    cases List.mem_singleton.mp (List.mem_of_find?_eq_some earliest)
    cases Option.some.inj found
    rw [name]
    decide +kernel
  have column : planned.column = "Head Count_sum" := by
    have closed := PlanRequest.closed_of_compile of.compiled
    have shown : planned.column ∈ execution.plan.columns := by
      rw [closed.columns]
      exact List.mem_append_left _ (List.mem_append_right _ (List.mem_map_of_mem known))
    exact List.mem_singleton.mp (columns ▸ shown)
  rw [← column]
  exact whole marked

/-- Under a name of its own without the mark, the sum of a field that has it keeps its fraction. -/
theorem not_isWhole_of_execute :
    Settings.default.isIntegerQuantity "Head Count" = true ∧
      (execute (.plain (tallySource "Total")) "heads" ⟨"ann", "admin", none⟩).result.map
        (fun output => (output.columns, output.data)) =
          .ok (["Total_sum"], [[("Total_sum", .number 3.75)]]) ∧
      Number.integer? 3.75 = none := by
  refine ⟨?_, ?_, ?_⟩ <;> decide +kernel

end Engine

end FormReport
