import FormReport.Proofs.Frame
import FormReport.Proofs.Placement
import FormReport.Proofs.Scope

set_option autoImplicit false

/- Filters come first. A report with filters is the report without them over a backend from which the
rows that fail a filter have been deleted, whatever is done with the rows that are left. -/
namespace FormReport

theorem toOption_mapError {ε ε' α : Type} (change : ε → ε') (result : Except ε α) :
    (result.mapError change).toOption = result.toOption := by
  cases result <;> rfl

/-- A report that asks for the same without conditions on the rows. -/
def Report.withoutFilters (report : Report) : Report :=
  { report with config := { report.config with filters := [] } }

namespace ReportFilter

/-- Whether a form defines the field of a filter, by its display name or by its id. -/
def appliesTo (catalog : Catalog) (filter : ReportFilter) (formId : String) : Bool :=
  (catalog.lookup? filter.field).any fun (_, field) => catalog.any fun form =>
    form.formId = formId &&
      ((form.fieldByName? field.name).isSome || (form.fieldById? field.id).isSome)

/-- Whether the value that a row shows in the field of a filter is one that the filter accepts. -/
def accepts? (units : Char → List Char) (catalog : Catalog) (filter : ReportFilter)
    (row : StoredRow) : Option Bool := do
  let planned ← (RowFilter.ofFilter catalog filter).toOption
  let cell ← (row.read planned.accessor).toOption
  pure (planned.accepts units cell)

/-- Whether a row fails a filter: its form defines the field, and the value does not match. -/
def rejects (units : Char → List Char) (catalog : Catalog) (filter : ReportFilter)
    (row : StoredRow) : Bool :=
  filter.appliesTo catalog row.formId && filter.accepts? units catalog row == some false

/-- Whether a row fails one of some filters. -/
def anyRejects (units : Char → List Char) (catalog : Catalog) (filters : List ReportFilter)
    (row : StoredRow) : Bool :=
  filters.any fun filter => filter.rejects units catalog row

theorem anyRejects_unplaced (units : Char → List Char) (catalog : Catalog)
    (filters : List ReportFilter) (row : StoredRow) :
    anyRejects units catalog filters row.unplaced = anyRejects units catalog filters row := by
  simp only [anyRejects, rejects, accepts?, StoredRow.read_unplaced, toOption_mapError]
  rfl

end ReportFilter

namespace RowFilter

variable {units : Char → List Char} {catalog : Catalog}

/-- A planned filter looks at the rows of the forms to which the filter applies. -/
theorem contains_forms {filter : ReportFilter} {planned : RowFilter}
    (made : ofFilter catalog filter = .ok planned) (formId : String) :
    planned.forms.contains formId = filter.appliesTo catalog formId := by
  unfold ofFilter at made
  unfold ReportFilter.appliesTo
  cases found : catalog.lookup? filter.field with
  | none =>
    rw [found] at made
    cases made
  | some hit =>
    obtain ⟨_, field⟩ := hit
    rw [found] at made
    obtain ⟨accessor, _, same⟩ := bind_eq_ok.mp made
    cases same
    rw [Bool.eq_iff_iff]
    simp only [definingForms, List.contains_iff_mem, List.mem_map, List.mem_filter, Option.any_some,
      List.any_eq_true, Bool.and_eq_true, decide_eq_true_eq]
    constructor
    · rintro ⟨form, ⟨inside, defines⟩, own⟩
      exact ⟨form, inside, own, defines⟩
    · rintro ⟨form, inside, own, defines⟩
      exact ⟨form, ⟨inside, defines⟩, own⟩

/-- A row passes a filter when it does not fail it. -/
theorem passes_ok {filter : ReportFilter} {planned : RowFilter}
    (made : ofFilter catalog filter = .ok planned) {row : StoredRow} {passed : Bool}
    (success : planned.passes units row = .ok passed) : passed = !filter.rejects units catalog row := by
  unfold passes at success
  unfold ReportFilter.rejects ReportFilter.accepts?
  rw [contains_forms made] at success
  cases applies : filter.appliesTo catalog row.formId with
  | false =>
    rw [applies] at success
    cases success
    rfl
  | true =>
    rw [applies] at success
    obtain ⟨cell, read, same⟩ := bind_eq_ok.mp success
    cases same
    rw [made, Except.toOption, Option.bind_eq_bind, Option.bind_some, read]
    change _ = !(some (planned.accepts units cell) == some false)
    cases planned.accepts units cell <;> rfl

/-- A row passes all filters when it fails none, although the work ends at the first that it fails. -/
theorem allPass_ok {filters : List ReportFilter} {planned : List RowFilter}
    (made : List.Forall₂ (fun filter planned => ofFilter catalog filter = .ok planned) filters planned)
    {row : StoredRow} {passed : Bool} (success : allPass units row planned = .ok passed) :
    passed = !ReportFilter.anyRejects units catalog filters row := by
  induction made generalizing passed with
  | nil =>
    cases success
    rfl
  | cons head _ ih =>
    obtain ⟨first, own, success⟩ := bind_eq_ok.mp success
    rw [ReportFilter.anyRejects, List.any_cons, Bool.not_or, ← passes_ok head own]
    cases first with
    | false =>
      cases success
      rfl
    | true => exact ih success

theorem keep_ok {filters : List ReportFilter} {planned : List RowFilter}
    (made : List.Forall₂ (fun filter planned => ofFilter catalog filter = .ok planned) filters planned)
    {rows kept : List StoredRow} (success : keep units planned rows = .ok kept) :
    kept = rows.filter fun row => !ReportFilter.anyRejects units catalog filters row := by
  induction rows generalizing kept with
  | nil =>
    cases success
    rfl
  | cons row rest ih =>
    obtain ⟨passed, own, success⟩ := bind_eq_ok.mp success
    obtain ⟨others, remaining, same⟩ := bind_eq_ok.mp success
    cases same
    rw [List.filter_cons, ← allPass_ok made own, ih remaining]

theorem keep_nil (rows : List StoredRow) : keep units [] rows = .ok rows := by
  induction rows with
  | nil => rfl
  | cons row rest ih =>
    rw [keep, ih]
    rfl

end RowFilter

/-- A record without the rows that are rejected. What is no row stays. -/
def Record.prune (rejected : StoredRow → Bool) (record : Record) : Record :=
  { record with
    rows := record.rows.filter fun document =>
      !document.fields?.any fun fields => rejected ⟨record.id, record.formId, 0, fields⟩ }

namespace Engine

variable {rejected : StoredRow → Bool}

/-- The rows of a pruned record are those of the record that are not rejected; they move up. -/
theorem rowsFrom_prune (blind : ∀ row : StoredRow, rejected row.unplaced = rejected row)
    (record : Record) {documents : List Json} {index : Nat} {rows : List StoredRow}
    (success : rowsFrom record index documents = .ok rows) (start : Nat) :
    ∃ pruned, rowsFrom (record.prune rejected) start (documents.filter fun document =>
        !document.fields?.any fun fields => rejected ⟨record.id, record.formId, 0, fields⟩) =
          .ok pruned ∧
      pruned.map StoredRow.unplaced =
        (rows.filter fun row => !rejected row).map StoredRow.unplaced := by
  induction documents generalizing index rows start with
  | nil =>
    cases success
    exact ⟨[], rfl, rfl⟩
  | cons document rest ih =>
    rw [rowsFrom] at success
    cases found : document.fields? with
    | none =>
      rw [found] at success
      cases success
    | some fields =>
      rw [found] at success
      obtain ⟨others, remaining, same⟩ := bind_eq_ok.mp success
      cases same
      have own : rejected ⟨record.id, record.formId, index, fields⟩ =
          rejected ⟨record.id, record.formId, 0, fields⟩ := (blind _).symm
      cases verdict : rejected ⟨record.id, record.formId, 0, fields⟩ with
      | true =>
        obtain ⟨pruned, made, same⟩ := ih remaining start
        refine ⟨pruned, ?_, ?_⟩
        · simpa [found, verdict] using made
        · simpa [own, verdict] using same
      | false =>
        obtain ⟨pruned, made, same⟩ := ih remaining (start + 1)
        refine ⟨⟨record.id, record.formId, start, fields⟩ :: pruned, ?_, ?_⟩
        · rw [List.filter_cons_of_pos (by simp [found, verdict]), rowsFrom, found]
          exact bind_eq_ok.mpr ⟨pruned, made, rfl⟩
        · simp [own, verdict, same, StoredRow.unplaced]

/-- The rows of all records, each of them pruned. -/
theorem mapM_rowsFrom_prune (blind : ∀ row : StoredRow, rejected row.unplaced = rejected row)
    {records : List Record} {lists : List (List StoredRow)}
    (success : records.mapM (fun record => rowsFrom record 0 record.rows) = .ok lists) :
    ∃ pruned, (records.map (Record.prune rejected)).mapM
        (fun record => rowsFrom record 0 record.rows) = .ok pruned ∧
      pruned.flatten.map StoredRow.unplaced =
        (lists.flatten.filter fun row => !rejected row).map StoredRow.unplaced := by
  have each := mapM_eq_ok.mp success
  clear success
  simp only [mapM_eq_ok, List.forall₂_map_left_iff]
  induction each with
  | nil => exact ⟨[], .nil, rfl⟩
  | cons head _ ih =>
    obtain ⟨first, made, same⟩ := rowsFrom_prune blind _ head 0
    obtain ⟨others, remaining, rest⟩ := ih
    refine ⟨first :: others, .cons made remaining, ?_⟩
    simp only [List.flatten_cons, List.filter_append, List.map_append, same, rest]

theorem result_expand_eq_ok {plan : Plan} {catalog : Catalog} {reportId : String}
    {records : List Record} {rows : List StoredRow} :
    (expand plan catalog reportId records).result = .ok rows ↔
      ∃ lists, (records.filter (inScope plan)).mapM (fun record => rowsFrom record 0 record.rows) =
        .ok lists ∧ lists.flatten = rows := by
  simp only [result_expand, mapM_mapError, bind_eq_ok, mapError_eq_ok, Except.ok.injEq]

end Engine

/-- A backend whose reports have no filters, and whose records have lost the rows that fail one of the
given filters, as far as they can be seen by the requester in a report over the given forms. -/
def Source.prefiltered (source : Source) (units : Char → List Char) (catalog : Catalog)
    (requester : Requester) (filters : List ReportFilter) : Source :=
  { source with
    records := fun formIds site => (source.records formIds site).map fun records =>
      records.map fun record =>
        if Engine.visible (catalog.map (·.formId)) requester record then
          record.prune (ReportFilter.anyRejects units catalog filters)
        else record
    report? := fun reportId => (source.report? reportId).map fun found =>
      found.map Report.withoutFilters }

namespace Engine

/-- A plan without its filters makes the same of the rows that are left. -/
theorem materialize_withoutFilters (plan : Plan) (rows : List StoredRow) :
    ({ plan with filters := [] } : Plan).materialize rows = plan.materialize rows := by
  have aggregate : ({ plan with filters := [] } : Plan).aggregate rows = plan.aggregate rows := by
    apply Plan.aggregate_congr <;> rfl
  simp only [Plan.materialize, aggregate]
  rfl

/-- Filters have no part in the rest of a plan. -/
theorem compile_withoutFilters {settings : Settings} {report : Report} {catalog : Catalog}
    {site : Option String} {plan : Plan} {summary : PlanSummary}
    (compiled : (PlanRequest.compile settings ⟨report.config, catalog, site⟩).result =
      .ok (plan, summary)) :
    ∃ summary, (PlanRequest.compile settings ⟨report.withoutFilters.config, catalog, site⟩).result =
      .ok ({ plan with filters := [] }, summary) := by
  obtain ⟨stages, accepted, rfl⟩ := PlanRequest.compile_ok compiled
  let others : PlanStages := { stages with filters := [] }
  have again : others.Accepted settings ⟨report.withoutFilters.config, catalog, site⟩ :=
    { accepted with filters := rfl }
  exact ⟨_, PlanRequest.compile_of_accepted again⟩

/-- The rows that are left for a plan after its filters are, up to their places, those of the pruned
records. -/
theorem expand_prefiltered {rejected : StoredRow → Bool} {plan : Plan} {catalog : Catalog}
    {reportId : String} {requester : Requester} {records : List Record} {rows : List StoredRow}
    (planned : plan.formIds = catalog.map (·.formId)) (site : plan.site = requester.siteId)
    (expanded : (expand plan catalog reportId records).result = .ok rows)
    (blind : ∀ row : StoredRow, rejected row.unplaced = rejected row) :
    ∃ pruned, (expand { plan with filters := [] } catalog reportId (records.map fun record =>
        if visible (catalog.map (·.formId)) requester record then record.prune rejected
        else record)).result = .ok pruned ∧
      pruned.map StoredRow.unplaced =
        (rows.filter fun row => !rejected row).map StoredRow.unplaced := by
  obtain ⟨lists, each, rfl⟩ := result_expand_eq_ok.mp expanded
  obtain ⟨pruned, made, same⟩ := mapM_rowsFrom_prune blind each
  refine ⟨pruned.flatten, result_expand_eq_ok.mpr ⟨pruned, ?_, rfl⟩, same⟩
  rw [← made]
  congr 1
  have scope : visible (catalog.map (·.formId)) requester = inScope plan := by
    funext record
    rw [inScope, visible, planned, site]
  have shared (record : Record) : inScope { plan with filters := [] }
      (if inScope plan record then record.prune rejected else record) = inScope plan record := by
    split <;> rfl
  rw [scope, List.filter_map, Function.comp_def]
  simp only [shared]
  apply List.map_congr_left
  intro record inside
  rw [if_pos (List.mem_filter.mp inside).2]

/-- A report whose filters let some rows pass is the report without filters over a backend in which
the other rows have been deleted: the same columns and the same rows in the same order, grouped or
not. -/
theorem execute_prefiltered {context : Context} {reportId : String} {requester : Requester}
    {output : ReportOutput} (success : (execute context reportId requester).result = .ok output) :
    ∃ catalog, (participatingForms context.source output.report).result = .ok catalog ∧
      (execute { context with
          source := context.source.prefiltered context.units catalog requester
            output.report.config.filters }
        reportId requester).result = .ok { output with report := output.report.withoutFilters } := by
  rw [result_execute] at success
  obtain ⟨⟨report, plan, kept⟩, gathered, success⟩ := bind_eq_ok.mp success
  obtain ⟨finished, materialized, same⟩ := bind_eq_ok.mp success
  cases same
  obtain ⟨_, opened, gathered⟩ := bind_eq_ok.mp gathered
  obtain ⟨catalog, listed, gathered⟩ := bind_eq_ok.mp gathered
  obtain ⟨⟨_, summary⟩, compiled, gathered⟩ := bind_eq_ok.mp gathered
  obtain ⟨records, queried, gathered⟩ := bind_eq_ok.mp gathered
  obtain ⟨rows, expanded, gathered⟩ := bind_eq_ok.mp gathered
  obtain ⟨_, filtered, same⟩ := bind_eq_ok.mp gathered
  cases same
  refine ⟨catalog, listed, ?_⟩
  have compiled := mapError_eq_ok.mp compiled
  obtain ⟨planned, site⟩ := inScope_of_compile compiled
  obtain ⟨_, recompiled⟩ := compile_withoutFilters compiled
  obtain ⟨pruned, made, same⟩ := expand_prefiltered planned site expanded
    (ReportFilter.anyRejects_unplaced context.units catalog report.config.filters)
  have left : kept = rows.filter fun row =>
      !ReportFilter.anyRejects context.units catalog report.config.filters row := by
    obtain ⟨stages, accepted, rfl⟩ := PlanRequest.compile_ok compiled
    exact RowFilter.keep_ok (mapM_eq_ok.mp accepted.filters) (mapError_eq_ok.mp filtered)
  have rest : ({ plan with filters := [] } : Plan).materialize pruned = .ok finished := by
    rw [materialize_withoutFilters, ← Plan.materialize_unplaced, same, ← left,
      Plan.materialize_unplaced]
    exact mapError_eq_ok.mp materialized
  rw [result_execute]
  refine bind_eq_ok.mpr ⟨(report.withoutFilters, { plan with filters := [] }, pruned), ?_,
    bind_eq_ok.mpr ⟨finished, mapError_eq_ok.mpr rest, rfl⟩⟩
  refine bind_eq_ok.mpr ⟨_, openReport_map opened _ rfl fun _ => rfl, bind_eq_ok.mpr ⟨catalog, listed,
    bind_eq_ok.mpr ⟨_, mapError_eq_ok.mpr recompiled, bind_eq_ok.mpr ⟨_, ?_,
      bind_eq_ok.mpr ⟨pruned, made, bind_eq_ok.mpr ⟨pruned, ?_, rfl⟩⟩⟩⟩⟩⟩
  · change ((context.source.records plan.formIds plan.site).map _).mapError _ = _
    rw [mapError_eq_ok.mp queried]
    rfl
  · rw [mapError_eq_ok]
    exact RowFilter.keep_nil pruned

/-- A catch by species without the hauls of which twice the count is no more than four. Weighings have
no such field, so the filter leaves their rows alone. -/
def catchSource : Source where
  activeForms := .ok [.create "haul" "Haul" [], .create "weighing" "Weighing" []]
  fields formId _ := .ok (if formId = "haul" then
    [.plain "s" "Species" .text, .plain "n" "Count" .number, .computed "d" "Double" "Count * 2"]
    else [.plain "s2" "Species" .text, .plain "w" "Weight" .number])
  records _ _ := .ok [
    ⟨"1", "haul", "north", "ann", [
      .object [("s", .text "Carp"), ("n", .integer 1)],
      .object [("s", .text "Bass"), ("n", .integer 5)],
      .object [("s", .text "Carp"), ("n", .integer 3)]], []⟩,
    ⟨"2", "weighing", "north", "ann", [.object [("Species", .text "Carp"), ("w", .integer 8)]], []⟩]
  report? reportId := .ok (some ⟨reportId, "Catch", "head", { ReportConfig.empty with
    selectedFields := [⟨"haul", "s", ""⟩]
    aggregations := [⟨"haul", "n", "", .sum⟩, ⟨"weighing", "w", "", .sum⟩]
    filters := [⟨"Double", .gt, .integer 4⟩] }⟩)

/-- The haul that the filter rejects is in no sum, and its species is not the first to appear. -/
theorem execute_prefiltered_catch :
    ∃ output, (execute (.plain catchSource) "catch" ⟨"ann", "admin", none⟩).result = .ok output ∧
      output.data = [
        [("Species", .text "Bass"), ("Count_sum", .number 5), ("Weight_sum", .number 0)],
        [("Species", .text "Carp"), ("Count_sum", .number 3), ("Weight_sum", .number 8)]] ∧
      ∃ catalog, (participatingForms catchSource output.report).result = .ok catalog ∧
        (execute (.plain (catchSource.prefiltered Text.lowerUnits catalog ⟨"ann", "admin", none⟩
          output.report.config.filters)) "catch" ⟨"ann", "admin", none⟩).result =
          .ok { output with report := output.report.withoutFilters } := by
  have made : (execute (.plain catchSource) "catch" ⟨"ann", "admin", none⟩).result.map (·.data) =
      .ok [
        [("Species", .text "Bass"), ("Count_sum", .number 5), ("Weight_sum", .number 0)],
        [("Species", .text "Carp"), ("Count_sum", .number 3), ("Weight_sum", .number 8)]] := by
    decide +kernel
  obtain ⟨output, success, data⟩ := map_eq_ok.mp made
  exact ⟨output, success, data, execute_prefiltered success⟩

end Engine

end FormReport
