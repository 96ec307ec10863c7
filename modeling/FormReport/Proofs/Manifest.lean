import FormReport.Proofs.Closure
import FormReport.Proofs.Execution
import FormReport.Proofs.Grouping
import Mathlib.Data.List.Perm.Subperm

set_option autoImplicit false

/- Finished rows against the columns of their plan: a row has a cell under every column and under no
other name, in each of the modes. -/
namespace FormReport

namespace ResultRow

/-- Whether a row has one cell under each of some columns. -/
structure Fits (row : ResultRow) (columns : List String) : Prop where
  distinct : row.keys.Nodup
  same : ∀ column, column ∈ row.keys ↔ column ∈ columns

theorem fits_ofList (entries : List (String × Cell)) :
    Fits (Keyed.ofList entries) (entries.map Prod.fst) :=
  ⟨Keyed.nodup_keys_ofList entries, Keyed.mem_keys_ofList entries⟩

theorem Fits.extend {row : ResultRow} {columns : List String} (fits : row.Fits columns)
    (values : List (String × Cell)) :
    Fits (values.foldl (fun row value => row.set value.1 value.2) row)
      (columns ++ values.map Prod.fst) := by
  refine ⟨Keyed.nodup_keys_foldl_set values row fits.distinct, fun column => ?_⟩
  rw [Keyed.mem_keys_foldl_set, List.mem_append, fits.same]

/-- A row is as wide as its columns are many unless two of them share a name. -/
theorem Fits.length_eq_iff {row : ResultRow} {columns : List String} (fits : row.Fits columns) :
    row.length = columns.length ↔ columns.Nodup := by
  have width : row.keys.length = row.length := List.length_map ..
  constructor
  · intro wide
    have inside : row.keys ⊆ columns := fun column member => (fits.same column).mp member
    have all := (fits.distinct.subperm inside).perm_of_length_le (by omega)
    exact all.nodup_iff.mp fits.distinct
  · intro distinct
    rw [← width]
    exact ((List.perm_ext_iff_of_nodup fits.distinct distinct).mpr fits.same).length_eq

theorem Fits.exists_cell {row : ResultRow} {columns : List String} (fits : row.Fits columns)
    {column : String} (inside : column ∈ columns) : ∃ cell, row.get? column = some cell := by
  obtain ⟨⟨_, cell⟩, entry, rfl⟩ := List.mem_map.mp ((fits.same column).mpr inside)
  exact ⟨cell, Keyed.get?_of_mem fits.distinct entry⟩

/-- Whether a row has a cell for a leaf, so that the leaf reads as zero only where the cell has no
number. -/
def Shows (row : ResultRow) : Leaf Accessor → Prop
  | .aggregate column => ∃ cell, row.get? column = some cell
  | .grouping column => ∃ cell, row.get? column = some cell
  | .raw _ => False

theorem mem_of_mem_dropTotals {columns : List String} {rows : List ResultRow} {row : ResultRow}
    (inside : row ∈ dropTotals columns rows) : row ∈ rows := by
  unfold dropTotals at inside
  split at inside
  · exact inside
  · exact List.mem_of_mem_filter inside

theorem mem_of_mem_sort {units : Char → List Char} {keys : List SortKey} {rows : List ResultRow}
    {row : ResultRow} (inside : row ∈ sort units keys rows) : row ∈ rows := by
  unfold sort at inside
  split at inside
  · exact inside
  · exact List.mem_mergeSort.mp inside

end ResultRow

namespace Plan

theorem names_of_calculated {plan : Plan}
    {leaf : Leaf Accessor → Except RunError (Option Float)} {values : List (String × Cell)}
    (success : plan.calculated leaf = .ok values) :
    plan.calculations.map (·.column) = values.map Prod.fst := by
  apply map_eq_of_forall₂ (mapM_eq_ok.mp success)
  intro calculation value computed
  obtain ⟨_, _, same⟩ := bind_eq_ok.mp computed
  cases same
  rfl

theorem fits_of_project {plan : Plan} {row : StoredRow} {finished : ResultRow}
    (success : plan.project row = .ok finished) :
    finished.Fits (plan.groupingColumns ++ plan.calculations.map (·.column)) := by
  obtain ⟨cells, read, success⟩ := bind_eq_ok.mp success
  obtain ⟨values, calculated, same⟩ := bind_eq_ok.mp success
  cases same
  have names : plan.groupingColumns = cells.map Prod.fst := by
    apply map_eq_of_forall₂ (mapM_eq_ok.mp read)
    intro key value found
    obtain ⟨_, _, same⟩ := bind_eq_ok.mp found
    cases same
    rfl
  rw [names, names_of_calculated calculated, ← List.map_append]
  exact ResultRow.fits_ofList _

theorem fits_of_aggregate {plan : Plan} {rows : List StoredRow} {groups : List ResultRow}
    (success : plan.aggregate rows = .ok groups) {row : ResultRow} (inside : row ∈ groups) :
    row.Fits (plan.groupingColumns ++ plan.aggregates.map (·.column)) := by
  obtain ⟨_, _, entries, rfl, known⟩ := exists_of_forall₂ (aggregate_entries success).flip inside
  rw [← known.columns]
  exact ResultRow.fits_ofList entries

theorem fits_of_calculate {plan : Plan} {row finished : ResultRow} {columns : List String}
    (fits : row.Fits columns) (success : plan.calculate row = .ok finished) :
    finished.Fits (columns ++ plan.calculations.map (·.column)) := by
  obtain ⟨values, calculated, same⟩ := bind_eq_ok.mp success
  cases same
  rw [names_of_calculated calculated]
  exact fits.extend values

/-- The rows of a closed plan show its columns, whichever of the three stages has made them. -/
theorem Closed.fits {plan : Plan} (closed : plan.Closed) {rows : List StoredRow}
    {finished : List ResultRow} (success : plan.materialize rows = .ok finished) {row : ResultRow}
    (inside : row ∈ finished) : row.Fits plan.columns := by
  rw [closed.columns]
  unfold materialize at success
  split at success
  · rename_i raw
    obtain ⟨_, _, projected⟩ := exists_of_forall₂ (mapM_eq_ok.mp success).flip inside
    rw [closed.raw raw, List.map_nil, List.append_nil]
    exact fits_of_project projected
  · rename_i aggregate
    rw [closed.aggregate aggregate, List.map_nil, List.append_nil]
    exact fits_of_aggregate success inside
  · obtain ⟨groups, aggregated, success⟩ := bind_eq_ok.mp success
    obtain ⟨group, paired, calculated⟩ := exists_of_forall₂ (mapM_eq_ok.mp success).flip inside
    exact fits_of_calculate (fits_of_aggregate aggregated (List.of_mem_zip paired).2) calculated

/-- No leaf of a calculation is read where it is not shown. -/
theorem Closed.shows {plan : Plan} (closed : plan.Closed) (grouped : plan.mode.isGrouped = true)
    {rows : List StoredRow} {groups : List ResultRow} (success : plan.aggregate rows = .ok groups)
    {row : ResultRow} (inside : row ∈ groups) {calculation : CalculationColumn}
    (planned : calculation ∈ plan.calculations) {leaf : Leaf Accessor}
    (read : leaf ∈ calculation.formula.leaves) : ResultRow.Shows row leaf := by
  have fits := fits_of_aggregate success inside
  have within := closed.leaves calculation planned leaf read
  cases leaf with
  | aggregate column => exact fits.exists_cell (List.mem_append_right _ within.2)
  | grouping column => exact fits.exists_cell (List.mem_append_left _ within.2)
  | raw accessor =>
    have raw : plan.mode.isGrouped = false := within
    rw [grouped] at raw
    cases raw

end Plan

/-- Sorting and dropping totals make no rows. -/
theorem Execution.mem_finished {units : Char → List Char} {execution : Execution} {row : ResultRow}
    (inside : row ∈ execution.data units) : row ∈ execution.finished :=
  ResultRow.mem_of_mem_dropTotals (ResultRow.mem_of_mem_sort inside)

namespace PlanRequest

/-- The names of a compiled plan are all different, and its rows are as wide as its columns are many,
just when no field that is displayed has the name of an aggregate. -/
theorem nodup_columns_iff_of_compile (settings : Settings) (request : PlanRequest) (plan : Plan)
    (summary : PlanSummary) (compiled : (request.compile settings).result = .ok (plan, summary)) :
    let apart := ∀ field ∈ groupingFields request.selected request.aggregations,
      field.column request.catalog ∉ plan.aggregates.map (·.column)
    (plan.columns.Nodup ↔ apart) ∧
      ∀ rows finished, plan.materialize rows = .ok finished →
        ∀ row ∈ finished, (row.length = plan.columns.length ↔ apart) := by
  intro apart
  obtain ⟨stages, accepted, rfl⟩ := compile_ok compiled
  have distinct : (stages.plan request).columns.Nodup ↔ apart := by
    refine accepted.nodup_columns_iff.trans ?_
    rw [GroupingKey.columns_ofFields accepted.grouping]
    simp only [List.mem_eraseDups, List.forall_mem_map]
    rfl
  refine ⟨distinct, ?_⟩
  intro rows finished success row inside
  exact (accepted.closed.fits success inside).length_eq_iff.trans distinct

/-- The weights of a pond, summed for each of its notes, which are displayed under a label. -/
def labelled (label : String) : PlanRequest where
  config := { ReportConfig.empty with
    selectedForms := ["pond"]
    selectedFields := [⟨"pond", "note", label⟩]
    aggregations := [⟨"pond", "w", "Weight", .sum⟩] }
  catalog := [⟨"pond", [.plain "w" "Weight" .number, .plain "note" "Note" .text]⟩]
  site := none

def labelledPlan (label : String) : Plan where
  mode := .aggregate
  formIds := ["pond"]
  site := none
  filters := []
  grouping := [⟨label, ⟨[label, "note"], .text, []⟩⟩]
  aggregates := [⟨"Weight_sum", "pond", "w", "Weight", .sum, ⟨["Weight", "w"], .number, []⟩, false⟩]
  calculations := []
  sort := []
  columns := [label, "Weight_sum"]

def labelledSummary : PlanSummary where
  mode := .aggregate
  forms := 1
  grouping := 1
  aggregates := 1
  calculations := 0
  filters := 0
  aliases := 0
  ignoredSorts := 0

theorem nodup_columns_iff_of_compile_remark :
    ((labelled "Remark").compile .default).result = .ok (labelledPlan "Remark", labelledSummary) ∧
      (labelledPlan "Remark").columns.Nodup ∧
      ∀ rows finished, (labelledPlan "Remark").materialize rows = .ok finished →
        ∀ row ∈ finished, row.length = 2 := by
  have compiled : ((labelled "Remark").compile .default).result =
      .ok (labelledPlan "Remark", labelledSummary) := by decide +kernel
  obtain ⟨distinct, width⟩ := nodup_columns_iff_of_compile .default _ _ _ compiled
  have apart : ∀ field ∈ groupingFields (labelled "Remark").selected
      (labelled "Remark").aggregations, field.column (labelled "Remark").catalog ∉
        (labelledPlan "Remark").aggregates.map (·.column) := by decide +kernel
  refine ⟨compiled, distinct.mpr apart, ?_⟩
  intro rows finished success row inside
  exact (width rows finished success row inside).mpr apart

/-- Under the name of the aggregate there are two columns of one name, and the row has the aggregate
there: the note is lost. -/
theorem not_nodup_columns_of_compile :
    ((labelled "Weight_sum").compile .default).result =
        .ok (labelledPlan "Weight_sum", labelledSummary) ∧
      ¬ (labelledPlan "Weight_sum").columns.Nodup ∧
      (labelledPlan "Weight_sum").materialize [
        ⟨"r1", "pond", 0, [("w", .integer 5), ("note", .text "clear")]⟩,
        ⟨"r1", "pond", 1, [("w", .integer 2), ("note", .text "clear")]⟩] =
        .ok [[("Weight_sum", .number 7)]] := by
  refine ⟨by decide +kernel, by decide, by decide +kernel⟩

/-- What a compiled plan names is there, and the rows of a report have the report's columns. -/
theorem closed_and_keys (settings : Settings) (units : Char → List Char) :
    (∀ (request : PlanRequest) (plan : Plan) (summary : PlanSummary),
      (request.compile settings).result = .ok (plan, summary) →
        plan.Closed ∧
          (plan.mode.isGrouped = true → ∀ rows groups, plan.aggregate rows = .ok groups →
            ∀ row ∈ groups, ∀ calculation ∈ plan.calculations,
              ∀ leaf ∈ calculation.formula.leaves, ResultRow.Shows row leaf)) ∧
      ∀ (source : Source) (reportId : String) (requester : Requester) (output : ReportOutput),
        (Engine.execute ⟨source, settings, units⟩ reportId requester).result = .ok output →
          ∀ row ∈ output.data, ∀ column, column ∈ row.keys ↔ column ∈ output.columns := by
  constructor
  · intro request plan summary compiled
    have closed := closed_of_compile compiled
    refine ⟨closed, ?_⟩
    intro grouped rows groups success row inside calculation planned leaf read
    exact closed.shows grouped success inside planned read
  · intro source reportId requester output success row inside
    obtain ⟨execution, of, rfl⟩ := Execution.of_execute success
    obtain ⟨rows, kept, _, _, materialized⟩ := Engine.run_ok of.carriedOut
    have closed := closed_of_compile of.compiled
    exact (closed.fits materialized (Execution.mem_finished inside)).same

/-- The weights with a calculation over their sums. -/
def doubled : PlanRequest :=
  { labelled "Remark" with
    config := { (labelled "Remark").config with
      calculations := [⟨"Double", "Weight + Weight"⟩] } }

def doubledPlan : Plan :=
  { labelledPlan "Remark" with
    mode := .aggregateThenCalculate
    calculations := [⟨"Double", "Weight + Weight",
      .binary .add (.ref (.aggregate "Weight_sum")) (.ref (.aggregate "Weight_sum"))⟩]
    columns := ["Remark", "Weight_sum", "Double"] }

/-- Two rows to show and one that is a total. -/
def doubledSource : Source where
  activeForms := .ok [.create "pond" "Pond" []]
  fields _ _ := .ok [.plain "w" "Weight" .number, .plain "note" "Note" .text]
  records _ _ := .ok [⟨"r1", "pond", "north", "ann", [
    .object [("w", .integer 5), ("note", .text "clear")],
    .object [("w", .integer 14), ("note", .text "0")],
    .object [("w", .integer 9), ("note", .text "mud")]], []⟩]
  report? reportId := .ok (some ⟨reportId, "Weights", "head", doubled.config⟩)

theorem closed_and_keys_doubled :
    doubledPlan.Closed ∧
      (∀ rows groups, doubledPlan.aggregate rows = .ok groups →
        ∀ row ∈ groups, ResultRow.Shows row (.aggregate "Weight_sum")) ∧
      ∃ output, (Engine.execute (.plain doubledSource) "weights"
          ⟨"ann", "admin", none⟩).result = .ok output ∧
        output.data = [
          [("Remark", .text "clear"), ("Weight_sum", .number 5), ("Double", .number 10)],
          [("Remark", .text "mud"), ("Weight_sum", .number 9), ("Double", .number 18)]] ∧
        ∀ row ∈ output.data, ∀ column, column ∈ row.keys ↔ column ∈ output.columns := by
  obtain ⟨plans, outputs⟩ := closed_and_keys .default Text.lowerUnits
  have compiled : (doubled.compile .default).result =
      .ok (doubledPlan, { labelledSummary with
        mode := .aggregateThenCalculate, calculations := 1 }) := by decide +kernel
  obtain ⟨closed, shown⟩ := plans _ _ _ compiled
  refine ⟨closed, ?_, ?_⟩
  · intro rows groups success row inside
    exact shown rfl rows groups success row inside _ (List.mem_singleton_self _) _
      List.mem_cons_self
  · have data : (Engine.execute (.plain doubledSource) "weights"
        ⟨"ann", "admin", none⟩).result.map (·.data) = .ok [
          [("Remark", .text "clear"), ("Weight_sum", .number 5), ("Double", .number 10)],
          [("Remark", .text "mud"), ("Weight_sum", .number 9), ("Double", .number 18)]] := by
      decide +kernel
    cases made : (Engine.execute (.plain doubledSource) "weights"
        ⟨"ann", "admin", none⟩).result with
    | error error =>
      rw [made] at data
      cases data
    | ok output =>
      rw [made] at data
      exact ⟨output, rfl, Except.ok.inj data, outputs _ _ _ _ made⟩

end PlanRequest

end FormReport
