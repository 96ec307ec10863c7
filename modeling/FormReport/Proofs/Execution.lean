import FormReport.Engine
import FormReport.Proofs.Planning

set_option autoImplicit false

/- An execution taken apart: what each step has given when a report is made. -/
namespace FormReport.Engine

/-- A backend under the default settings, where characters are spelled with themselves. -/
def Context.plain (source : Source) : Context := ⟨source, .default, Text.lowerUnits⟩

/-- The live forms that a report names, in the order in which it names them. -/
def liveForms (config : ReportConfig) (active : List Form) : List String :=
  (namedForms config).filter fun formId => active.any (·.id = formId)

theorem openReport_ok {context : Context} {reportId : String} {requester : Requester}
    {report : Report} (opened : (openReport context reportId requester).result = .ok report) :
    context.source.report? reportId = .ok (some report) := by
  unfold openReport ask at opened
  rw [Traced.result_bind, Traced.result_ofExcept] at opened
  obtain ⟨found, asked, opened⟩ := bind_eq_ok.mp opened
  rw [mapError_eq_ok.mp asked]
  cases found with
  | none => cases opened
  | some stored =>
    dsimp only at opened
    split at opened
    · cases opened
      rfl
    · cases opened

/-- A report is opened by the same requesters after a change that is of no account to its access. -/
theorem openReport_map {context : Context} {reportId : String} {requester : Requester}
    {report : Report} (opened : (openReport context reportId requester).result = .ok report)
    {source : Source} (change : Report → Report)
    (asked : source.report? reportId = (context.source.report? reportId).map (·.map change))
    (access : ∀ stored, context.settings.access.canAccess (change stored) requester =
      context.settings.access.canAccess stored requester) :
    (openReport { context with source } reportId requester).result = .ok (change report) := by
  unfold openReport ask at opened ⊢
  rw [Traced.result_bind, Traced.result_ofExcept] at opened ⊢
  obtain ⟨found, known, opened⟩ := bind_eq_ok.mp opened
  refine bind_eq_ok.mpr ⟨found.map change, ?_, ?_⟩
  · rw [mapError_eq_ok, asked, mapError_eq_ok.mp known]
    rfl
  · cases found with
    | none => cases opened
    | some stored =>
      dsimp only [Option.map_some] at opened ⊢
      rw [access]
      split at opened
      · rename_i allowed
        cases opened
        rw [if_pos allowed]
        rfl
      · cases opened

/-- The catalog has a form for each live form that the report names, with all its fields. -/
theorem forms_of_participatingForms {source : Source} {report : Report} {catalog : Catalog}
    (listed : (participatingForms source report).result = .ok catalog) :
    ∃ active, source.activeForms = .ok active ∧
      List.Forall₂ (fun formId form => formId = form.formId ∧
        source.fields formId true = .ok form.fields) (liveForms report.config active) catalog := by
  unfold participatingForms ask at listed
  simp only [Traced.result_bind, Traced.result_ofExcept, Traced.result_noteIf,
    Traced.result_mapM, Traced.result_pure] at listed
  obtain ⟨active, asked, listed⟩ := bind_eq_ok.mp listed
  obtain ⟨_, _, listed⟩ := bind_eq_ok.mp listed
  refine ⟨active, mapError_eq_ok.mp asked, (mapM_eq_ok.mp listed).imp ?_⟩
  intro formId form found
  obtain ⟨fields, given, same⟩ := bind_eq_ok.mp found
  cases same
  exact ⟨rfl, mapError_eq_ok.mp given⟩

theorem participatingForms_ok {source : Source} {report : Report} {catalog : Catalog}
    (listed : (participatingForms source report).result = .ok catalog) :
    ∃ active, source.activeForms = .ok active ∧
      catalog.map (·.formId) = liveForms report.config active := by
  obtain ⟨active, asked, each⟩ := forms_of_participatingForms listed
  refine ⟨active, asked, ?_⟩
  rw [← List.map_id (liveForms report.config active)]
  exact (map_eq_of_forall₂ each fun _ _ form => form.1).symm

theorem fields_of_participatingForms {source : Source} {report : Report} {catalog : Catalog}
    (listed : (participatingForms source report).result = .ok catalog) :
    ∀ form ∈ catalog, form.formId ∈ namedForms report.config ∧
      source.fields form.formId true = .ok form.fields := by
  intro form inside
  obtain ⟨active, _, each⟩ := forms_of_participatingForms listed
  obtain ⟨formId, paired, rfl, given⟩ := exists_of_forall₂ each.flip inside
  exact ⟨List.mem_of_mem_filter (List.of_mem_zip paired).2, given⟩

theorem result_expand (plan : Plan) (catalog : Catalog) (reportId : String)
    (records : List Record) :
    (expand plan catalog reportId records).result =
      ((records.filter (inScope plan)).mapM fun record =>
        (rowsFrom record 0 record.rows).mapError ReportError.run) >>= fun rows =>
          .ok rows.flatten := by
  have each (record : Record) : (expandRecord catalog reportId record).result =
      (rowsFrom record 0 record.rows).mapError ReportError.run := by
    simp only [expandRecord, Traced.result_bind, Traced.result_noteIf, Traced.result_ofExcept]
    rfl
  simp only [expand, Traced.result_bind, Traced.result_mapM, each, Traced.result_pure]

/-- The rows that a plan is carried out on, before and after the filters. -/
theorem run_ok {units : Char → List Char} {plan : Plan} {catalog : Catalog} {reportId : String}
    {records : List Record} {finished : List ResultRow}
    (success : (run units plan catalog reportId records).result = .ok finished) :
    ∃ rows kept, (expand plan catalog reportId records).result = .ok rows ∧
      RowFilter.keep units plan.filters rows = .ok kept ∧ plan.materialize kept = .ok finished := by
  unfold run at success
  simp only [Traced.result_bind, Traced.result_ofExcept, Traced.result_note] at success
  obtain ⟨rows, expanded, success⟩ := bind_eq_ok.mp success
  obtain ⟨_, _, success⟩ := bind_eq_ok.mp success
  obtain ⟨kept, filtered, success⟩ := bind_eq_ok.mp success
  obtain ⟨_, _, success⟩ := bind_eq_ok.mp success
  obtain ⟨rest, materialized, success⟩ := bind_eq_ok.mp success
  obtain ⟨_, _, success⟩ := bind_eq_ok.mp success
  cases success
  exact ⟨rows, kept, expanded, mapError_eq_ok.mp filtered, mapError_eq_ok.mp materialized⟩

theorem run_of_ok {units : Char → List Char} {plan : Plan} {catalog : Catalog} {reportId : String}
    {records : List Record} {rows kept : List StoredRow} {finished : List ResultRow}
    (expanded : (expand plan catalog reportId records).result = .ok rows)
    (filtered : RowFilter.keep units plan.filters rows = .ok kept)
    (materialized : plan.materialize kept = .ok finished) :
    (run units plan catalog reportId records).result = .ok finished := by
  unfold run
  simp only [Traced.result_bind, Traced.result_ofExcept, Traced.result_note]
  exact bind_eq_ok.mpr ⟨rows, expanded, bind_eq_ok.mpr ⟨(), rfl, bind_eq_ok.mpr ⟨kept,
    mapError_eq_ok.mpr filtered, bind_eq_ok.mpr ⟨(), rfl, bind_eq_ok.mpr ⟨finished,
      mapError_eq_ok.mpr materialized, rfl⟩⟩⟩⟩⟩

/-- What a plan is carried out on, once a report is found and planned: the rows in scope that pass its
filters. -/
def gather (context : Context) (reportId : String) (requester : Requester) :
    Except ReportError (Report × Plan × List StoredRow) := do
  let report ← (openReport context reportId requester).result
  let catalog ← (participatingForms context.source report).result
  let (plan, _) ← ((PlanRequest.compile context.settings
    ⟨report.config, catalog, requester.siteId⟩).result).mapError .plan
  let records ← (context.source.records plan.formIds plan.site).mapError .store
  let rows ← (expand plan catalog reportId records).result
  let kept ← (RowFilter.keep context.units plan.filters rows).mapError .run
  .ok (report, plan, kept)

theorem result_execute (context : Context) (reportId : String) (requester : Requester) :
    (execute context reportId requester).result =
      gather context reportId requester >>= fun (report, plan, rows) =>
        (plan.materialize rows).mapError .run >>= fun finished =>
          let data := ResultRow.sort context.units plan.sort
            (ResultRow.dropTotals plan.groupingColumns finished)
          .ok { report, columns := plan.columns, data, total := data.length } := by
  unfold execute gather run ask
  simp only [Traced.result_bind, Traced.result_ofExcept, Traced.result_note, Traced.result_noteIf,
    Traced.result_pure, bind_assoc]
  rfl

end FormReport.Engine

namespace FormReport

open Engine

/-- What the steps of an execution give. -/
structure Execution where
  report : Report
  catalog : Catalog
  plan : Plan
  summary : PlanSummary
  records : List Record
  finished : List ResultRow

namespace Execution

def data (units : Char → List Char) (execution : Execution) : List ResultRow :=
  ResultRow.sort units execution.plan.sort
    (ResultRow.dropTotals execution.plan.groupingColumns execution.finished)

def output (units : Char → List Char) (execution : Execution) : ReportOutput where
  report := execution.report
  columns := execution.plan.columns
  data := execution.data units
  total := (execution.data units).length

/-- Whether these are the results of the steps, each of them a success. -/
structure Of (execution : Execution) (context : Context) (reportId : String)
    (requester : Requester) : Prop where
  opened : (openReport context reportId requester).result = .ok execution.report
  listed : (participatingForms context.source execution.report).result = .ok execution.catalog
  compiled :
    (PlanRequest.compile context.settings
      ⟨execution.report.config, execution.catalog, requester.siteId⟩).result =
      .ok (execution.plan, execution.summary)
  queried :
    context.source.records execution.plan.formIds execution.plan.site = .ok execution.records
  carriedOut :
    (run context.units execution.plan execution.catalog reportId execution.records).result =
      .ok execution.finished

theorem of_execute {context : Context} {reportId : String} {requester : Requester}
    {output : ReportOutput} (success : (execute context reportId requester).result = .ok output) :
    ∃ execution : Execution, execution.Of context reportId requester ∧
      output = execution.output context.units := by
  unfold execute ask at success
  simp only [Traced.result_bind, Traced.result_ofExcept, Traced.result_note,
    Traced.result_noteIf] at success
  obtain ⟨report, opened, success⟩ := bind_eq_ok.mp success
  obtain ⟨catalog, listed, success⟩ := bind_eq_ok.mp success
  obtain ⟨⟨plan, summary⟩, compiled, success⟩ := bind_eq_ok.mp success
  obtain ⟨_, _, success⟩ := bind_eq_ok.mp success
  obtain ⟨records, queried, success⟩ := bind_eq_ok.mp success
  obtain ⟨finished, carriedOut, success⟩ := bind_eq_ok.mp success
  obtain ⟨_, _, success⟩ := bind_eq_ok.mp success
  obtain ⟨_, _, success⟩ := bind_eq_ok.mp success
  cases success
  exact ⟨⟨report, catalog, plan, summary, records, finished⟩,
    ⟨opened, listed, mapError_eq_ok.mp compiled, mapError_eq_ok.mp queried, carriedOut⟩, rfl⟩

theorem Of.result {context : Context} {reportId : String} {requester : Requester}
    {execution : Execution} (of : execution.Of context reportId requester) :
    (execute context reportId requester).result = .ok (execution.output context.units) := by
  unfold execute ask
  simp only [Traced.result_bind, Traced.result_ofExcept, Traced.result_note, Traced.result_noteIf]
  refine bind_eq_ok.mpr ⟨_, of.opened, bind_eq_ok.mpr ⟨_, of.listed,
    bind_eq_ok.mpr ⟨_, mapError_eq_ok.mpr of.compiled, bind_eq_ok.mpr ⟨(), rfl,
      bind_eq_ok.mpr ⟨_, mapError_eq_ok.mpr of.queried, bind_eq_ok.mpr ⟨_, of.carriedOut, ?_⟩⟩⟩⟩⟩⟩
  rfl

end Execution

end FormReport
