import FormReport.Proofs.Execution

set_option autoImplicit false

/- What a requester may see: a report depends on the records of the live forms that it names, at the
requester's site, and on no others, whatever the backend returns besides. -/
namespace FormReport.Engine

/-- Whether a requester may see a record in a report over some forms. -/
def visible (forms : List String) (requester : Requester) (record : Record) : Bool :=
  forms.contains record.formId && requester.siteId.all (record.siteId = ·)

/-- A plan asks for the forms of its catalog and for the requester's site. -/
theorem inScope_of_compile {settings : Settings} {request : PlanRequest} {plan : Plan}
    {summary : PlanSummary} (compiled : (request.compile settings).result = .ok (plan, summary)) :
    plan.formIds = request.catalog.map (·.formId) ∧ plan.site = request.site := by
  obtain ⟨stages, _, rfl⟩ := PlanRequest.compile_ok compiled
  exact ⟨rfl, rfl⟩

/-- Records out of scope are not looked at. -/
theorem run_filter (units : Char → List Char) (plan : Plan) (catalog : Catalog) (reportId : String)
    (records : List Record) :
    run units plan catalog reportId (records.filter (inScope plan)) =
      run units plan catalog reportId records := by
  simp only [run, expand, List.filter_filter, Bool.and_self]

/-- Work that looks at part of an answer only is the same for answers that agree on that part. -/
theorem ask_bind_congr {α β : Type} (part : α → α) (next : α → Reporting β)
    (first second : Except StoreError α) (blind : ∀ value, next (part value) = next value)
    (same : first.map part = second.map part) : ask first >>= next = ask second >>= next := by
  have through (answer : Except StoreError α) :
      ask answer >>= next = ask (answer.map part) >>= next := by
    cases answer with
    | error error => rfl
    | ok value =>
      change Traced.bind _ _ = Traced.bind _ _
      simp only [Traced.bind, ask, Except.map, Except.mapError, Traced.ofExcept, blind value]
  rw [through first, through second, same]

theorem execute_eq_of_visible_eq (settings : Settings) (units : Char → List Char)
    (first second : Source) (reportId : String) (requester : Requester)
    (sameForms : first.activeForms = second.activeForms)
    (sameFields : first.fields = second.fields) (sameReports : first.report? = second.report?)
    (sameVisible : ∀ report active, first.report? reportId = .ok (some report) →
      first.activeForms = .ok active →
      let forms := liveForms report.config active
      (first.records forms requester.siteId).map (·.filter (visible forms requester)) =
        (second.records forms requester.siteId).map (·.filter (visible forms requester))) :
    execute ⟨first, settings, units⟩ reportId requester =
      execute ⟨second, settings, units⟩ reportId requester := by
  obtain ⟨activeForms, fields, firstRecords, report?⟩ := first
  obtain ⟨_, _, secondRecords, _⟩ := second
  cases sameForms
  cases sameFields
  cases sameReports
  unfold execute
  apply Traced.bind_congr
  intro report opened
  apply Traced.bind_congr
  intro catalog listed
  apply Traced.bind_congr
  rintro ⟨plan, summary⟩ compiled
  obtain ⟨active, asked, named⟩ := participatingForms_ok listed
  obtain ⟨planned, site⟩ := inScope_of_compile (mapError_eq_ok.mp compiled)
  have scope : inScope plan = visible (liveForms report.config active) requester := by
    funext record
    rw [inScope, visible, planned, site, named]
  apply Traced.bind_congr
  intro _ _
  -- Both runs have the same plan here, so they put the same question for records.
  dsimp only
  rw [planned, site, named]
  apply ask_bind_congr (List.filter (visible (liveForms report.config active) requester))
  · intro records
    rw [← scope, run_filter]
  · exact sameVisible report active (openReport_ok opened) asked

/-- One form with a report on its only field, and a backend that returns all records it has, whatever
it is asked for. -/
def pondSource (records : List Record) : Source where
  activeForms := .ok [.create "pond" "Pond" [.plain "qty" "Qty" .number]]
  fields _ _ := .ok [.plain "qty" "Qty" .number]
  records _ _ := .ok records
  report? reportId := .ok (some ⟨reportId, "Stock", "head",
    { ReportConfig.empty with
      selectedForms := ["pond", "closed"]
      aggregations := [⟨"pond", "qty", "Qty", .sum⟩] }⟩)

def northRecord : Record := ⟨"1", "pond", "north", "ann", [.object [("qty", .integer 5)]], []⟩

/-- Records of another site and of forms that are not live, with rows that cannot be read. -/
def hiddenRecords : List Record := [
  ⟨"2", "pond", "south", "bob", [.null, .object [("qty", .array [])]], []⟩,
  ⟨"3", "closed", "north", "ann", [.text "no row"], []⟩]

theorem execute_eq_of_visible_eq_malformed :
    execute (.plain (pondSource [northRecord])) "stock" ⟨"ann", "admin", some "north"⟩ =
      execute (.plain (pondSource (hiddenRecords ++ [northRecord]))) "stock"
        ⟨"ann", "admin", some "north"⟩ := by
  refine execute_eq_of_visible_eq .default Text.lowerUnits _ _ "stock" _ rfl rfl rfl ?_
  intro report active stored listed
  cases stored
  cases listed
  rfl

end FormReport.Engine
