import FormReport.Proofs.FirstSeen

set_option autoImplicit false

/- Selections on retired forms are inert. A report gives what it gives once everything that it selects
of forms that are inactive, archived or absent is struck out. -/
namespace FormReport

/-- What is left of a report's selections on some forms. -/
def ReportConfig.onForms (config : ReportConfig) (kept : String → Bool) : ReportConfig :=
  { config with
    selectedForms := config.selectedForms.filter kept
    selectedFields := config.selectedFields.filter fun field => kept field.formId
    aggregations := config.aggregations.filter fun aggregation => kept aggregation.formId }

def Report.onForms (report : Report) (kept : String → Bool) : Report :=
  { report with config := report.config.onForms kept }

namespace Source

/-- Whether a backend counts a form among the active ones. -/
def isLive (source : Source) (formId : String) : Bool :=
  match source.activeForms with
  | .ok active => active.any (·.id = formId)
  | .error _ => false

/-- A backend with the same forms and records, whose reports select on live forms only. -/
def withoutRetired (source : Source) : Source :=
  { source with
    report? := fun reportId => (source.report? reportId).map fun found =>
      found.map (·.onForms source.isLive) }

end Source

/-- A store with the same forms and records, whose reports select on live forms only. -/
def Store.withoutRetired (store : Store) : Store :=
  { store with
    reports := store.reports.map fun entry => (entry.1, entry.2.onForms store.source.isLive) }

theorem Keyed.get?_map {α β : Type} (entries : Keyed α) (change : α → β) (key : String) :
    get? (entries.map fun entry => (entry.1, change entry.2)) key = (entries.get? key).map change := by
  induction entries with
  | nil => rfl
  | cons first rest ih =>
    rw [List.map_cons, get?_cons, get?_cons, ih]
    split <;> rfl

/-- A store whose reports are rewritten is a backend that rewrites what it hands out. -/
theorem Store.source_withoutRetired (store : Store) :
    store.withoutRetired.source = store.source.withoutRetired := by
  have reports : store.withoutRetired.report? = fun reportId =>
      (store.report? reportId).map (·.onForms store.source.isLive) := by
    funext reportId
    exact Keyed.get?_map store.reports (·.onForms store.source.isLive) reportId
  change Source.mk _ _ _ (fun reportId => .ok (store.withoutRetired.report? reportId)) = _
  rw [reports]
  rfl

/-- The live forms of a store are those that are there, active and not archived. -/
theorem Store.isLive_source {store : Store} {formId : String} :
    store.source.isLive formId = true ↔
      ∃ form ∈ store.forms, form.id = formId ∧ form.active = true ∧ form.archived = false := by
  change (store.forms.filter Form.isLive).any _ = true ↔ _
  simp only [List.any_filter, List.any_eq_true, Bool.and_eq_true, Form.isLive,
    Bool.not_eq_true', decide_eq_true_eq]
  refine exists_congr fun form => and_congr_right fun _ => ?_
  exact and_comm

namespace Engine

theorem namedForms_onForms (config : ReportConfig) (kept : String → Bool) :
    namedForms (config.onForms kept) = (namedForms config).filter kept := by
  have fields : (config.selectedFields.filter fun field => kept field.formId).map (·.formId) =
      (config.selectedFields.map (·.formId)).filter kept := by
    rw [List.filter_map]
    rfl
  have aggregations : (config.aggregations.filter fun aggregation =>
      kept aggregation.formId).map (·.formId) =
        (config.aggregations.map (·.formId)).filter kept := by
    rw [List.filter_map]
    rfl
  have all : (config.onForms kept).selectedForms ++
      (config.onForms kept).selectedFields.map (·.formId) ++
        (config.onForms kept).aggregations.map (·.formId) =
      (config.selectedForms ++ config.selectedFields.map (·.formId) ++
        config.aggregations.map (·.formId)).filter kept := by
    rw [List.filter_append, List.filter_append, ← fields, ← aggregations]
    rfl
  rw [namedForms, all]
  exact firstSeen_filter (fun formId => formId) kept _

/-- The forms that take part are the same without the retired ones, which are dropped anyway. -/
theorem participatingForms_withoutRetired (source : Source) (report : Report) :
    (participatingForms source.withoutRetired (report.onForms source.isLive)).result =
      (participatingForms source report).result := by
  unfold participatingForms ask
  simp only [Traced.result_bind, Traced.result_ofExcept, Traced.result_mapM, Traced.result_noteIf]
  change source.activeForms.mapError _ >>= _ = source.activeForms.mapError _ >>= _
  cases asked : source.activeForms with
  | error error => rfl
  | ok active =>
    have live : source.isLive = fun formId => active.any (·.id = formId) := by
      funext formId
      rw [Source.isLive, asked]
    have named : (namedForms (report.onForms source.isLive).config).filter
        (fun formId => active.any (·.id = formId)) =
          (namedForms report.config).filter fun formId => active.any (·.id = formId) := by
      rw [Report.onForms, namedForms_onForms, live, List.filter_filter]
      simp only [Bool.and_self]
    simp only [Except.mapError, bind, Except.bind, named]
    rfl

/-- All forms of a catalog are live. -/
theorem isLive_of_participatingForms {source : Source} {report : Report} {catalog : Catalog}
    (listed : (participatingForms source report).result = .ok catalog) {formId : String}
    (inside : catalog.any (·.formId = formId) = true) : source.isLive formId = true := by
  obtain ⟨active, asked, forms⟩ := participatingForms_ok listed
  have named : formId ∈ liveForms report.config active := by
    rw [← forms]
    simpa using inside
  rw [Source.isLive, asked]
  exact (List.mem_filter.mp named).2

/-- A report is opened as it would be before a change that is of no account to its access. -/
theorem result_openReport_map (context : Context) (reportId : String) (requester : Requester)
    (source : Source) (change : Report → Report)
    (asked : source.report? reportId = (context.source.report? reportId).map (·.map change))
    (access : ∀ stored, context.settings.access.canAccess (change stored) requester =
      context.settings.access.canAccess stored requester) :
    (openReport { context with source } reportId requester).result =
      (openReport context reportId requester).result.map change := by
  unfold openReport ask
  rw [Traced.result_bind, Traced.result_bind, Traced.result_ofExcept, Traced.result_ofExcept, asked]
  cases context.source.report? reportId with
  | error error => rfl
  | ok found =>
    cases found with
    | none => rfl
    | some stored =>
      change (if _ then _ else _ : Reporting Report).result =
        (if _ then _ else _ : Reporting Report).result.map change
      rw [access]
      split <;> rfl

end Engine

/-- A report that asks for nothing asks for nothing on some forms. -/
theorem PlanRequest.isEmpty_onForms {config : ReportConfig} (kept : String → Bool)
    (none : isEmpty config = true) : isEmpty (config.onForms kept) = true := by
  rw [isEmpty, Bool.and_eq_true, Bool.and_eq_true, List.isEmpty_iff, List.isEmpty_iff] at none
  obtain ⟨⟨noFields, noAggregations⟩, noCalculations⟩ := none
  rw [isEmpty, ReportConfig.onForms, noFields, noAggregations]
  exact noCalculations

namespace PlanStages

variable {stages : PlanStages} {settings : Settings} {config : ReportConfig} {catalog : Catalog}
  {site : Option String} {kept : String → Bool}

theorem selected_onForms (whole : ∀ formId, catalog.any (·.formId = formId) = true →
      kept formId = true) :
    PlanRequest.selected ⟨config.onForms kept, catalog, site⟩ =
      PlanRequest.selected ⟨config, catalog, site⟩ := by
  change (config.selectedFields.filter _).filter _ = config.selectedFields.filter _
  rw [List.filter_filter]
  refine List.filter_congr fun field _ => ?_
  exact Bool.and_eq_left_iff_imp.mpr (whole field.formId)

theorem aggregations_onForms (whole : ∀ formId, catalog.any (·.formId = formId) = true →
      kept formId = true) :
    PlanRequest.aggregations ⟨config.onForms kept, catalog, site⟩ =
      PlanRequest.aggregations ⟨config, catalog, site⟩ := by
  change (config.aggregations.filter _).filter _ = config.aggregations.filter _
  rw [List.filter_filter]
  refine List.filter_congr fun aggregation _ => ?_
  exact Bool.and_eq_left_iff_imp.mpr (whole aggregation.formId)

/-- A report that shows something asks for something on the forms of its catalog. -/
theorem Accepted.asked_onForms (accepted : stages.Accepted settings ⟨config, catalog, site⟩)
    (whole : ∀ formId, catalog.any (·.formId = formId) = true → kept formId = true) :
    PlanRequest.isEmpty (config.onForms kept) = false := by
  by_contra asked
  rw [Bool.not_eq_false, PlanRequest.isEmpty, Bool.and_eq_true, Bool.and_eq_true,
    List.isEmpty_iff, List.isEmpty_iff, List.isEmpty_iff] at asked
  obtain ⟨⟨noFields, noAggregations⟩, noCalculations⟩ := asked
  have selected : PlanRequest.selected ⟨config, catalog, site⟩ = [] := by
    rw [← selected_onForms whole, PlanRequest.selected, noFields, List.filter_nil]
  have aggregations : PlanRequest.aggregations ⟨config, catalog, site⟩ = [] := by
    rw [← aggregations_onForms whole, PlanRequest.aggregations, noAggregations, List.filter_nil]
  have grouping : stages.grouping = [] := by
    have grouped := accepted.grouping
    rw [selected] at grouped
    exact (Except.ok.inj grouped).symm
  have aggregates : stages.aggregates = ⟨[], 0⟩ := by
    have aggregated := accepted.aggregates
    rw [aggregations] at aggregated
    exact (Except.ok.inj aggregated).symm
  have calculations : stages.calculations.map (·.column) = [] := by
    change config.calculations = [] at noCalculations
    rw [accepted.calculation_names, noCalculations, List.map_nil]
  apply accepted.shown
  rw [columns, taken, grouping, aggregates, calculations]
  rfl

/-- Of a report's selections, planning regards those on the forms of its catalog only. -/
theorem Accepted.reselect (accepted : stages.Accepted settings ⟨config, catalog, site⟩)
    {forms : List String} {fields : List SelectedField} {aggregations : List Aggregation}
    {other : ReportConfig} (reselected : other = { config with
      selectedForms := forms, selectedFields := fields, aggregations := aggregations })
    (asked : PlanRequest.isEmpty other = false)
    (selected : PlanRequest.selected ⟨other, catalog, site⟩ =
      PlanRequest.selected ⟨config, catalog, site⟩)
    (aggregated : PlanRequest.aggregations ⟨other, catalog, site⟩ =
      PlanRequest.aggregations ⟨config, catalog, site⟩) :
    stages.Accepted settings ⟨other, catalog, site⟩ := by
  subst reselected
  exact {
    asked
    selected := selected.symm ▸ accepted.selected
    aggregates := aggregated.symm ▸ accepted.aggregates
    grouping := aggregated.symm ▸ selected.symm ▸ accepted.grouping
    calculations := accepted.calculations
    filters := accepted.filters
    shown := accepted.shown }

/-- The stages of planning accept a report just when they accept what it selects on live forms. -/
theorem accepted_onForms (whole : ∀ formId, catalog.any (·.formId = formId) = true →
      kept formId = true) :
    stages.Accepted settings ⟨config.onForms kept, catalog, site⟩ ↔
      stages.Accepted settings ⟨config, catalog, site⟩ := by
  constructor
  · intro accepted
    have asked : PlanRequest.isEmpty config = false := by
      by_contra asked
      rw [Bool.not_eq_false] at asked
      exact Bool.false_ne_true (accepted.asked.symm.trans (PlanRequest.isEmpty_onForms kept asked))
    exact accepted.reselect rfl asked (selected_onForms whole).symm (aggregations_onForms whole).symm
  · intro accepted
    exact accepted.reselect rfl (accepted.asked_onForms whole) (selected_onForms whole)
      (aggregations_onForms whole)

theorem plan_onForms (whole : ∀ formId, catalog.any (·.formId = formId) = true →
      kept formId = true) :
    stages.plan ⟨config.onForms kept, catalog, site⟩ = stages.plan ⟨config, catalog, site⟩ := by
  rw [plan, plan, selected_onForms whole]
  rfl

end PlanStages

/-- A report is planned as what it selects on live forms. -/
theorem PlanRequest.compile_onForms {settings : Settings} {config : ReportConfig}
    {catalog : Catalog} {site : Option String} {kept : String → Bool}
    (whole : ∀ formId, catalog.any (·.formId = formId) = true → kept formId = true)
    (made : Plan × PlanSummary) :
    (compile settings ⟨config.onForms kept, catalog, site⟩).result = .ok made ↔
      (compile settings ⟨config, catalog, site⟩).result = .ok made := by
  have same (stages : PlanStages) (accepted : stages.Accepted settings ⟨config, catalog, site⟩) :
      (compile settings ⟨config.onForms kept, catalog, site⟩).result =
        (compile settings ⟨config, catalog, site⟩).result := by
    rw [compile_of_accepted accepted,
      compile_of_accepted ((PlanStages.accepted_onForms whole).mpr accepted),
      PlanStages.summary, PlanStages.summary, PlanStages.plan_onForms whole]
    rfl
  constructor
  · intro success
    obtain ⟨stages, accepted, _⟩ := compile_ok success
    rwa [← same stages ((PlanStages.accepted_onForms whole).mp accepted)]
  · intro success
    obtain ⟨stages, accepted, _⟩ := compile_ok success
    rwa [same stages accepted]

namespace Engine

/-- A report can be made just when it can be made without what it selects on retired forms, and it has
the same columns and the same rows. -/
theorem execute_withoutRetired (context : Context) (reportId : String) (requester : Requester)
    (pruned : ReportOutput) :
    (execute { context with source := context.source.withoutRetired } reportId requester).result =
        .ok pruned ↔
      ∃ output, (execute context reportId requester).result = .ok output ∧
        pruned = { output with report := output.report.onForms context.source.isLive } := by
  have opening := result_openReport_map context reportId requester context.source.withoutRetired
    (·.onForms context.source.isLive) rfl fun _ => rfl
  constructor
  · intro success
    obtain ⟨execution, of, rfl⟩ := Execution.of_execute success
    have opened := of.opened
    rw [opening] at opened
    obtain ⟨report, found, same⟩ := map_eq_ok.mp opened
    have listed := of.listed
    have compiled := of.compiled
    rw [← same] at listed compiled
    rw [participatingForms_withoutRetired] at listed
    have whole : Execution.Of { execution with report } context reportId requester := {
      opened := found
      listed
      compiled :=
        (PlanRequest.compile_onForms (fun _ => isLive_of_participatingForms listed) _).mp compiled
      queried := of.queried
      carriedOut := of.carriedOut }
    refine ⟨_, whole.result, ?_⟩
    rw [Execution.output, ← same]
    rfl
  · rintro ⟨output, success, rfl⟩
    obtain ⟨execution, of, rfl⟩ := Execution.of_execute success
    have live : Execution.Of
        { execution with report := execution.report.onForms context.source.isLive }
        { context with source := context.source.withoutRetired } reportId requester := {
      opened := by
        rw [opening, of.opened]
        rfl
      listed := (participatingForms_withoutRetired ..).trans of.listed
      compiled := (PlanRequest.compile_onForms
        (fun _ => isLive_of_participatingForms of.listed) _).mpr of.compiled
      queried := of.queried
      carriedOut := of.carriedOut }
    exact live.result

/-- A live pond, a form that is archived and one that is not active, and a report on all of them and on
a form that is not there. -/
def retiredStore : Store where
  forms := [
    .create "pond" "Pond" [.plain "s" "Species" .text, .plain "n" "Count" .number],
    { Form.create "old" "Old" [.plain "s" "Species" .text] with archived := true },
    { Form.create "idle" "Idle" [.plain "k" "Kind" .text] with active := false }]
  records := [⟨"1", "pond", "north", "ann", [
    .object [("s", .text "Carp"), ("n", .integer 2)],
    .object [("s", .text "Carp"), ("n", .integer 3)]], []⟩]
  reports := [("catch", ⟨"catch", "Catch", "head", { ReportConfig.empty with
    selectedForms := ["old", "pond"]
    selectedFields := [⟨"idle", "k", ""⟩, ⟨"pond", "s", ""⟩, ⟨"old", "n", ""⟩]
    aggregations := [⟨"lost", "s", "", .count⟩, ⟨"pond", "n", "", .sum⟩] }⟩)]

example :
    (execute (.plain retiredStore.withoutRetired.source) "catch" ⟨"ann", "admin", none⟩).result.map
        (fun output => (output.report.config.selectedForms, output.data)) =
      .ok (["pond"], [[("Species", .text "Carp"), ("Count_sum", .number 5)]]) := by
  decide +kernel

end Engine

end FormReport
