import FormReport.Observation
import FormReport.Plan.Compile
import FormReport.Run.Filter
import FormReport.Run.Finish
import FormReport.Run.Group
import FormReport.Store

set_option autoImplicit false

/- From a stored report to its rows. -/
namespace FormReport

structure ReportOutput where
  report : Report
  columns : List String
  data : List ResultRow
  total : Nat

/-- Work on a report, with what was noted about it. -/
abbrev Reporting (α : Type) := Traced Observation ReportError α

namespace Engine

/-- Where reports come from, the settings under which they are made, and how characters are spelled
where texts are put in order. -/
structure Context where
  source : Source
  settings : Settings
  units : Char → List Char

/-- What a backend answered. -/
def ask {α : Type} (answer : Except StoreError α) : Reporting α :=
  Traced.ofExcept (answer.mapError .store)

/-- The forms that a report names anywhere, each once. -/
def namedForms (config : ReportConfig) : List String :=
  (config.selectedForms ++ config.selectedFields.map (·.formId) ++
    config.aggregations.map (·.formId)).eraseDups

/-- The live forms that a report names, with all their fields. -/
def participatingForms (source : Source) (report : Report) : Reporting Catalog := do
  let named := namedForms report.config
  let active ← ask source.activeForms
  let isLive (formId : String) : Bool := active.any (·.id = formId)
  let dropped := named.filter fun formId => !isLive formId
  Traced.noteIf (!dropped.isEmpty) (.formsDropped report.id dropped)
  (named.filter isLive).mapM fun formId => do
    let fields ← ask (source.fields formId true)
    pure ⟨formId, fields⟩

/-- Whether a record counts: its form takes part, and it is of the requester's site. -/
def inScope (plan : Plan) (record : Record) : Bool :=
  plan.formIds.contains record.formId && plan.site.all (record.siteId = ·)

/-- The rows of a record, which must be objects. -/
def rowsFrom (record : Record) (index : Nat) : List Json → Except RunError (List StoredRow)
  | [] => .ok []
  | row :: rest =>
    match row.fields? with
    | none => .error (.malformedPath record.id index "row is not an object")
    | some fields => do
      let others ← rowsFrom record (index + 1) rest
      .ok (⟨record.id, record.formId, index, fields⟩ :: others)

/-- The rows of one record, after a note on the keys that no field explains. -/
def expandRecord (catalog : Catalog) (reportId : String) (record : Record) :
    Reporting (List StoredRow) := do
  let stray := ((catalog.form? record.formId).map fun form =>
    record.unresolvedKeys form.fields).getD []
  Traced.noteIf (!stray.isEmpty) (.keysUnresolved reportId record.id stray)
  Traced.ofExcept ((rowsFrom record 0 record.rows).mapError .run)

/-- The rows of all records that count. No others are looked at. -/
def expand (plan : Plan) (catalog : Catalog) (reportId : String) (records : List Record) :
    Reporting (List StoredRow) := do
  let rows ← (records.filter (inScope plan)).mapM (expandRecord catalog reportId)
  pure rows.flatten

/-- Carries out a plan. -/
def run (units : Char → List Char) (plan : Plan) (catalog : Catalog) (reportId : String)
    (records : List Record) : Reporting (List ResultRow) := do
  let rows ← expand plan catalog reportId records
  Traced.note (.counted reportId plan.mode .expanded rows.length)
  let kept ← Traced.ofExcept ((RowFilter.keep units plan.filters rows).mapError .run)
  Traced.note (.counted reportId plan.mode .filtered kept.length)
  let finished ← Traced.ofExcept ((plan.materialize kept).mapError .run)
  Traced.note (.counted reportId plan.mode .materialized finished.length)
  pure finished

/-- The report that is asked for, if the requester may see it. -/
def openReport (context : Context) (reportId : String) (requester : Requester) :
    Reporting Report := do
  match ← ask (context.source.report? reportId) with
  | none => Traced.fail (.reportNotFound reportId)
  | some report =>
    if context.settings.access.canAccess report requester then pure report
    else Traced.fail (.accessDenied reportId requester.userId)

/-- Makes a report: finds it, plans it, reads the records in scope, carries out the plan, and drops
and sorts what came out. -/
def execute (context : Context) (reportId : String) (requester : Requester) :
    Reporting ReportOutput := do
  let report ← openReport context reportId requester
  let catalog ← participatingForms context.source report
  let request : PlanRequest := { config := report.config, catalog, site := requester.siteId }
  let (plan, summary) ← (request.compile context.settings).embed .zeroed .plan
  Traced.note (.planned reportId summary)
  let records ← ask (context.source.records plan.formIds plan.site)
  let finished ← run context.units plan catalog reportId records
  let kept := ResultRow.dropTotals plan.groupingColumns finished
  let removed := ResultRow.droppedTotals plan.groupingColumns finished
  Traced.noteIf (removed != 0) (.totalsRemoved reportId removed)
  let data := ResultRow.sort context.units plan.sort kept
  Traced.note (.counted reportId plan.mode .final data.length)
  pure { report, columns := plan.columns, data, total := data.length }

/-- Makes a report for a user: a failure is noted and becomes a diagnostic. -/
def respond (context : Context) (reportId : String) (requester : Requester) :
    Traced Observation Diagnostic ReportOutput :=
  let made := execute context reportId requester
  match made.result with
  | .ok output => ⟨made.notes, .ok output⟩
  | .error error =>
    let diagnostic := Diagnostic.ofError error context.settings.developmentMode
    ⟨made.notes ++ [.failed reportId error diagnostic], .error diagnostic⟩

end Engine

end FormReport
