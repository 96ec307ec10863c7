import FormReport.Proofs.Execution
import FormReport.Proofs.Phrases

set_option autoImplicit false

/- Failures of a backend and what users are told about them. A question that the engine asks and that
fails ends the execution, and nothing else ends it with a failure of the backend. A text that is not
understood then stays hidden, whatever it is and whichever question it answers; any other failure is told
with its text. -/
namespace FormReport

/-- Whether an error is one of a store. While a plan is carried out no store is asked, and there are none. -/
def RunError.IsOfStore (error : RunError) : Prop := ∃ fault, error = .store fault

theorem Expression.never_eval {ε α : Type} {bad : ε → Prop} {read : α → Except ε (Option Float)}
    (never : ∀ leaf, Never bad (read leaf)) (tree : Expression α) : Never bad (tree.eval read) := by
  induction tree with
  | ref leaf => exact (never leaf).bind fun _ => never_ok _
  | number value => exact never_ok _
  | neg inner ih => exact ih.bind fun _ => never_ok _
  | binary operator left right left_ih right_ih =>
    exact left_ih.bind fun _ => right_ih.bind fun _ => never_ok _

namespace StoredRow

theorem never_probe (row : StoredRow) (keys : List String) :
    Never RunError.IsOfStore (row.probe keys) := by
  refine Never.mapError ?_
  rintro key ⟨fault, impossible⟩
  cases impossible

mutual

theorem never_read (row : StoredRow) : ∀ accessor : Accessor,
    Never RunError.IsOfStore (row.read accessor)
  | ⟨keys, valueType, derivations⟩ => by
    rw [read]
    refine (row.never_probe keys).bind fun stored => ?_
    split
    · exact never_derived row derivations
    · exact never_ok _

theorem never_derived (row : StoredRow) : ∀ derivations : List (String × Expression Accessor),
    Never RunError.IsOfStore (row.derived derivations)
  | [] => by
    rw [derived]
    exact never_ok _
  | (formId, formula) :: rest => by
    rw [derived]
    split
    · exact (never_compute row formula).bind fun _ => never_ok _
    · exact never_derived row rest

theorem never_compute (row : StoredRow) : ∀ formula : Expression Accessor,
    Never RunError.IsOfStore (row.compute formula)
  | .ref accessor => by
    rw [compute]
    exact (never_read row accessor).bind fun _ => never_ok _
  | .number _ => by
    rw [compute]
    exact never_ok _
  | .neg inner => by
    rw [compute]
    exact (never_compute row inner).bind fun _ => never_ok _
  | .binary operator left right => by
    rw [compute]
    exact (never_compute row left).bind fun _ => (never_compute row right).bind fun _ => never_ok _

end

theorem never_leaf (row : StoredRow) (leaf : Leaf Accessor) :
    Never RunError.IsOfStore (row.leaf leaf) := by
  cases leaf with
  | aggregate column => exact never_ok _
  | grouping column => exact never_ok _
  | raw accessor => exact (row.never_read accessor).bind fun _ => never_ok _

end StoredRow

theorem ResultRow.never_leaf (row : ResultRow) (leaf : Leaf Accessor) :
    Never RunError.IsOfStore (ResultRow.leaf row leaf) := by
  cases leaf <;> exact never_ok _

namespace RowFilter

variable {units : Char → List Char}

theorem never_passes (filter : RowFilter) (row : StoredRow) :
    Never RunError.IsOfStore (filter.passes units row) := by
  unfold passes
  split
  · exact (row.never_read filter.accessor).bind fun _ => never_ok _
  · exact never_ok _

theorem never_allPass (row : StoredRow) (filters : List RowFilter) :
    Never RunError.IsOfStore (allPass units row filters) := by
  induction filters with
  | nil => exact never_ok _
  | cons filter rest ih =>
    refine (filter.never_passes row).bind fun passed => ?_
    split
    · exact ih
    · exact never_ok _

theorem never_keep (filters : List RowFilter) (rows : List StoredRow) :
    Never RunError.IsOfStore (keep units filters rows) := by
  induction rows with
  | nil => exact never_ok _
  | cons row rest ih => exact (never_allPass row filters).bind fun _ => ih.bind fun _ => never_ok _

end RowFilter

namespace Plan

variable (plan : Plan)

theorem never_input (row : StoredRow) (planned : AggregateColumn) :
    Never RunError.IsOfStore (input row planned) := by
  unfold input
  split
  · exact (row.never_read planned.accessor).bind fun _ => never_ok _
  · exact never_ok _

theorem never_group (groups : List Group) (row : StoredRow) :
    Never RunError.IsOfStore (plan.group groups row) :=
  (Never.mapM plan.grouping fun key => row.never_read key.accessor).bind fun _ =>
    (Never.mapM plan.aggregates (never_input row)).bind fun _ => never_ok _

theorem never_aggregateCell (planned : AggregateColumn) (state : Accumulator) :
    Never RunError.IsOfStore (aggregateCell planned state) := by
  unfold aggregateCell
  dsimp only
  split
  · exact never_ok _
  · rintro _ ⟨fault, rfl⟩
    exact nofun

theorem never_groupRow (group : Group) : Never RunError.IsOfStore (plan.groupRow group) :=
  (Never.mapM _ fun _ => never_aggregateCell _ _).bind fun _ => never_ok _

theorem never_aggregate (rows : List StoredRow) : Never RunError.IsOfStore (plan.aggregate rows) :=
  (Never.foldlM rows _ plan.never_group).bind fun groups => .mapM groups plan.never_groupRow

theorem never_calculated {read : Leaf Accessor → Except RunError (Option Float)}
    (never : ∀ leaf, Never RunError.IsOfStore (read leaf)) :
    Never RunError.IsOfStore (plan.calculated read) :=
  Never.mapM _ fun calculation =>
    (Expression.never_eval never calculation.formula).bind fun _ => never_ok _

theorem never_project (row : StoredRow) : Never RunError.IsOfStore (plan.project row) :=
  (Never.mapM _ fun (key : GroupingKey) =>
    (row.never_read key.accessor).bind fun _ => never_ok _).bind fun _ =>
      (plan.never_calculated row.never_leaf).bind fun _ => never_ok _

theorem never_materialize (rows : List StoredRow) :
    Never RunError.IsOfStore (plan.materialize rows) := by
  unfold materialize
  split
  · exact .mapM rows plan.never_project
  · exact plan.never_aggregate rows
  · refine (plan.never_aggregate rows).bind fun groups => .mapM groups fun row => ?_
    exact (plan.never_calculated (ResultRow.never_leaf row)).bind fun _ => never_ok _

end Plan

/-- A question to a backend. -/
inductive Question where
  | report (reportId : String)
  | activeForms
  /-- For all fields of a form. -/
  | fields (formId : String)
  | records (formIds : List String) (site : Option String)

/-- Whether a backend fails to answer a question. -/
def Source.Fails (source : Source) (fault : StoreError) : Question → Prop
  | .report reportId => source.report? reportId = .error fault
  | .activeForms => source.activeForms = .error fault
  | .fields formId => source.fields formId true = .error fault
  | .records formIds site => source.records formIds site = .error fault

namespace Engine

/-- The questions that are asked when a report is made: each one after all earlier ones were answered, and
none that the answers do not lead to. -/
inductive Asks (context : Context) (reportId : String) (requester : Requester) : Question → Prop
  | report : Asks context reportId requester (.report reportId)
  | activeForms {report : Report}
      (opened : (openReport context reportId requester).result = .ok report) :
      Asks context reportId requester .activeForms
  | fields {report : Report} {active : List Form} {before : List String} {formId : String}
      {after : List String}
      (opened : (openReport context reportId requester).result = .ok report)
      (known : context.source.activeForms = .ok active)
      (split : liveForms report.config active = before ++ formId :: after)
      (earlier : ∀ other ∈ before, ∃ fields, context.source.fields other true = .ok fields) :
      Asks context reportId requester (.fields formId)
  | records {report : Report} {catalog : Catalog} {plan : Plan} {summary : PlanSummary}
      (opened : (openReport context reportId requester).result = .ok report)
      (listed : (participatingForms context.source report).result = .ok catalog)
      (compiled : (PlanRequest.compile context.settings
        ⟨report.config, catalog, requester.siteId⟩).result = .ok (plan, summary)) :
      Asks context reportId requester (.records plan.formIds plan.site)


variable {context : Context} {reportId : String} {requester : Requester} {fault : StoreError}

theorem mapError_store_iff {α : Type} {answer : Except StoreError α} :
    answer.mapError ReportError.store = .error (.store fault) ↔ answer = .error fault := by
  rw [mapError_eq_error]
  constructor
  · rintro ⟨_, failed, same⟩
    cases same
    exact failed
  · exact fun failed => ⟨fault, failed, rfl⟩

/-- Errors of carrying out a plan are none of a store. -/
theorem never_mapError_run {α : Type} {result : Except RunError α}
    (never : Never RunError.IsOfStore result) :
    Never (fun error => ∃ fault, error = ReportError.store fault) (result.mapError .run) :=
  .mapError fun error ⟨fault, same⟩ => never error ⟨fault, ReportError.run.inj same⟩

theorem never_rowsFrom (record : Record) (index : Nat) (rows : List Json) :
    Never RunError.IsOfStore (rowsFrom record index rows) := by
  induction rows generalizing index with
  | nil => exact never_ok _
  | cons row rest ih =>
    unfold rowsFrom
    split
    · rintro _ ⟨fault, rfl⟩
      exact nofun
    · exact (ih _).bind fun _ => never_ok _

theorem never_expand (plan : Plan) (catalog : Catalog) (reportId : String) (records : List Record) :
    Never (fun error => ∃ fault, error = ReportError.store fault)
      (expand plan catalog reportId records).result := by
  rw [result_expand]
  exact (Never.mapM _ fun record => never_mapError_run (never_rowsFrom record 0 record.rows)).bind
    fun _ => never_ok _

theorem openReport_eq_store_iff : (openReport context reportId requester).result =
    .error (.store fault) ↔ context.source.report? reportId = .error fault := by
  unfold openReport ask
  rw [Traced.result_bind, Traced.result_ofExcept, bind_eq_error, mapError_store_iff]
  refine or_iff_left ?_
  rintro ⟨found, _, failed⟩
  cases found with
  | none => cases failed
  | some report =>
    dsimp only at failed
    split at failed <;> cases failed

theorem participatingForms_eq_store_iff {source : Source} {report : Report} :
    (participatingForms source report).result = .error (.store fault) ↔
      source.activeForms = .error fault ∨ ∃ active, source.activeForms = .ok active ∧
        ∃ before formId after, liveForms report.config active = before ++ formId :: after ∧
          (∀ other ∈ before, ∃ fields, source.fields other true = .ok fields) ∧
          source.fields formId true = .error fault := by
  have form (formId : String) (error : ReportError) :
      ((source.fields formId true).mapError ReportError.store >>= fun fields =>
        (.ok ⟨formId, fields⟩ : Except ReportError FormFields)) = .error error ↔
        (source.fields formId true).mapError ReportError.store = .error error := by
    cases source.fields formId true <;> simp [Except.mapError, bind, Except.bind]
  have given (formId : String) : (∃ found : FormFields,
      ((source.fields formId true).mapError ReportError.store >>= fun fields =>
        (.ok ⟨formId, fields⟩ : Except ReportError FormFields)) = .ok found) ↔
        ∃ fields, source.fields formId true = .ok fields := by
    cases source.fields formId true <;> simp [Except.mapError, bind, Except.bind]
  unfold participatingForms ask
  simp only [Traced.result_bind, Traced.result_ofExcept, Traced.result_noteIf, Traced.result_mapM,
    Traced.result_pure]
  rw [bind_eq_error, mapError_store_iff]
  refine or_congr_right (exists_congr fun active => ?_)
  rw [mapError_eq_ok]
  refine and_congr_right fun _ => ?_
  change List.mapM _ (liveForms report.config active) = _ ↔ _
  rw [mapM_eq_error]
  simp only [form, given, mapError_store_iff]

/-- An execution ends with a failure of the store just when a question that is asked fails so. -/
theorem execute_eq_store_iff : (execute context reportId requester).result = .error (.store fault) ↔
    ∃ question, Asks context reportId requester question ∧ context.source.Fails fault question := by
  rw [result_execute, gather]
  constructor
  · intro failed
    rcases bind_eq_error.mp failed with failed | ⟨⟨report, plan, rows⟩, _, failed⟩
    · rcases bind_eq_error.mp failed with unopened | ⟨report, opened, failed⟩
      · exact ⟨_, .report, openReport_eq_store_iff.mp unopened⟩
      rcases bind_eq_error.mp failed with unlisted | ⟨catalog, listed, failed⟩
      · rcases participatingForms_eq_store_iff.mp unlisted with
          unanswered | ⟨active, known, before, formId, after, split, earlier, unanswered⟩
        · exact ⟨_, .activeForms opened, unanswered⟩
        · exact ⟨_, .fields opened known split earlier, unanswered⟩
      rcases bind_eq_error.mp failed with refused | ⟨⟨plan, summary⟩, compiled, failed⟩
      · obtain ⟨_, _, impossible⟩ := mapError_eq_error.mp refused
        cases impossible
      rcases bind_eq_error.mp failed with unanswered | ⟨records, _, failed⟩
      · exact ⟨_, .records opened listed (mapError_eq_ok.mp compiled),
          mapError_store_iff.mp unanswered⟩
      obtain ⟨rows, _, failed⟩ := (never_expand _ _ _ _).of_bind ⟨fault, rfl⟩ failed
      obtain ⟨kept, _, failed⟩ :=
        (never_mapError_run (RowFilter.never_keep _ _)).of_bind ⟨fault, rfl⟩ failed
      cases failed
    · obtain ⟨finished, _, failed⟩ :=
        (never_mapError_run (plan.never_materialize rows)).of_bind ⟨fault, rfl⟩ failed
      cases failed
  · rintro ⟨question, asked, failed⟩
    refine bind_eq_error.mpr (.inl ?_)
    cases asked with
    | report => exact bind_eq_error.mpr (.inl (openReport_eq_store_iff.mpr failed))
    | activeForms opened =>
      refine bind_eq_error.mpr (.inr ⟨_, opened, bind_eq_error.mpr (.inl ?_)⟩)
      exact participatingForms_eq_store_iff.mpr (.inl failed)
    | fields opened known split earlier =>
      refine bind_eq_error.mpr (.inr ⟨_, opened, bind_eq_error.mpr (.inl ?_)⟩)
      exact participatingForms_eq_store_iff.mpr
        (.inr ⟨_, known, _, _, _, split, earlier, failed⟩)
    | records opened listed compiled =>
      refine bind_eq_error.mpr (.inr ⟨_, opened, bind_eq_error.mpr (.inr ⟨_, listed,
        bind_eq_error.mpr (.inr ⟨_, mapError_eq_ok.mpr compiled, ?_⟩)⟩)⟩)
      exact bind_eq_error.mpr (.inl (mapError_store_iff.mpr failed))

end Engine

namespace ErrorKind

/-- Whether a phrase of some class occurs in a text, in whatever case. -/
def Understood (text : String) : Prop := ∃ entry ∈ backendPhrases, Occurs text entry

/-- Only the text of a backend makes a system fault, and only one that is not understood. -/
theorem ofReportError_eq_generic_iff {error : ReportError} :
    ofReportError error = genericExecutionFailure ↔
      ∃ text, error = .store (.backend text) ∧ ¬ Understood text := by
  have understood (text : String) : (ofBackendText? text).getD genericExecutionFailure =
      genericExecutionFailure ↔ ¬ Understood text := by
    cases found : ofBackendText? text with
    | none =>
      refine iff_of_true rfl ?_
      rintro ⟨entry, listed, occurs⟩
      exact ofBackendText?_eq_none_iff.mp found entry listed occurs
    | some kind =>
      obtain ⟨before, phrases, after, split, occurs, _⟩ := ofBackendText?_eq_some_iff.mp found
      have listed : (kind, phrases) ∈ backendPhrases :=
        split ▸ List.mem_append_right _ List.mem_cons_self
      have named : ∀ entry ∈ backendPhrases, entry.1 ≠ genericExecutionFailure := by decide
      exact iff_of_false (named _ listed) (not_not_intro ⟨_, listed, occurs⟩)
  constructor
  · intro generic
    cases error with
    | reportNotFound reportId => cases generic
    | accessDenied reportId userId => cases generic
    | plan error => cases error <;> cases generic
    | run error =>
      cases error with
      | malformedPath recordId row reason => cases generic
      | numericOverflow column => cases generic
      | store error =>
        cases error with
        | backend text => exact ⟨text, rfl, (understood text).mp generic⟩
        | _ => cases generic
  · rintro ⟨text, rfl, unknown⟩
    exact (understood text).mpr unknown

theorem status_eq_500_iff {kind : ErrorKind} : kind.status = 500 ↔ kind = genericExecutionFailure := by
  cases kind <;> decide

end ErrorKind

/-- What users are told about a failure that is not understood. -/
def Diagnostic.systemFault : Diagnostic where
  kind := .genericExecutionFailure
  message := ErrorKind.genericExecutionFailure.message
  suggestion := ErrorKind.genericExecutionFailure.suggestion
  detail := none

namespace Engine

theorem result_respond (context : Context) (reportId : String) (requester : Requester) :
    (respond context reportId requester).result =
      (execute context reportId requester).result.mapError fun error =>
        Diagnostic.ofError error context.settings.developmentMode := by
  unfold respond
  cases made : (execute context reportId requester).result <;> simp only [made] <;> rfl

/-- Outside development mode, a question that fails with a text that is not understood is told as one and
the same system fault, which does not show the text. All other failures are told with their texts and as
something else than a system fault. Which text is understood in which way does not depend on the case of
its letters, and depends on nothing but the classes that occur in it: the first of them counts. -/
theorem respond_backend :
    (Diagnostic.systemFault.status = 500 ∧ Diagnostic.systemFault.detail = none) ∧
    (∀ (context : Context) (reportId : String) (requester : Requester) (question : Question)
      (text : String), context.settings.developmentMode = false →
        Asks context reportId requester question → context.source.Fails (.backend text) question →
        ¬ ErrorKind.Understood text →
          (respond context reportId requester).result = .error .systemFault) ∧
    (∀ (context : Context) (reportId : String) (requester : Requester) (error : ReportError),
      context.settings.developmentMode = false →
        (execute context reportId requester).result = .error error →
        (∀ question text, Asks context reportId requester question →
          context.source.Fails (.backend text) question → ErrorKind.Understood text) →
          ∃ diagnostic, (respond context reportId requester).result = .error diagnostic ∧
            diagnostic.status ≠ 500 ∧ diagnostic.detail = some error.message) ∧
    (∀ text other : String, text.toList.map Char.toLower = other.toList.map Char.toLower →
      ErrorKind.ofBackendText? text = ErrorKind.ofBackendText? other) ∧
    (∀ text other : String, (∀ entry ∈ ErrorKind.backendPhrases,
      ErrorKind.Occurs text entry ↔ ErrorKind.Occurs other entry) →
        ErrorKind.ofBackendText? text = ErrorKind.ofBackendText? other) ∧
    ∀ (text : String) (kind : ErrorKind), ErrorKind.ofBackendText? text = some kind ↔
      ∃ before phrases after, ErrorKind.backendPhrases = before ++ (kind, phrases) :: after ∧
        ErrorKind.Occurs text (kind, phrases) ∧ ∀ entry ∈ before, ¬ ErrorKind.Occurs text entry := by
  refine ⟨⟨rfl, rfl⟩, ?_, ?_, ?_, fun _ _ => ErrorKind.ofBackendText?_congr,
    fun _ _ => ErrorKind.ofBackendText?_eq_some_iff⟩
  · intro context reportId requester question text hidden asked failed unknown
    have generic : ErrorKind.ofReportError (.store (.backend text)) = .genericExecutionFailure :=
      ErrorKind.ofReportError_eq_generic_iff.mpr ⟨text, rfl, unknown⟩
    rw [result_respond, execute_eq_store_iff.mpr ⟨question, asked, failed⟩, hidden]
    simp only [Except.mapError, Diagnostic.ofError, generic]
    rfl
  · intro context reportId requester error hidden failed understood
    have specific : ErrorKind.ofReportError error ≠ .genericExecutionFailure := by
      intro generic
      obtain ⟨text, rfl, unknown⟩ := ErrorKind.ofReportError_eq_generic_iff.mp generic
      obtain ⟨question, asked, unanswered⟩ := execute_eq_store_iff.mp failed
      exact unknown (understood question text asked unanswered)
    have shown : (ErrorKind.ofReportError error).isSystemFault = false := by
      cases kind : ErrorKind.ofReportError error <;> [rfl; rfl; rfl; rfl; rfl; rfl; rfl; rfl;
        exact absurd kind specific]
    refine ⟨_, by rw [result_respond, failed]; rfl, ?_, ?_⟩
    · exact fun status => specific (ErrorKind.status_eq_500_iff.mp status)
    · simp only [Diagnostic.ofError, shown]
      rfl
  · intro text other same
    refine ErrorKind.ofBackendText?_congr fun entry _ => ?_
    exact exists_congr fun phrase => and_congr_right fun _ => Text.mentions_congr same

def muddyReport : Report :=
  ⟨"stock", "Stock", "head", { ReportConfig.empty with selectedForms := ["pond"] }⟩

/-- A report on a pond whose fields cannot be told. -/
def muddyContext (text : String) : Context where
  source := {
    activeForms := .ok [.create "pond" "Pond" []]
    fields _ _ := .error (.backend text)
    records _ _ := .ok []
    report? _ := .ok (some muddyReport) }
  settings := .default
  units := Text.lowerUnits

/-- A backend that does not answer at all. -/
def deadContext (text : String) : Context where
  source := {
    activeForms := .error (.backend text)
    fields _ _ := .error (.backend text)
    records _ _ := .error (.backend text)
    report? _ := .error (.backend text) }
  settings := .default
  units := Text.lowerUnits

theorem asks_muddyContext (text : String) :
    Asks (muddyContext text) "stock" ⟨"ann", "admin", none⟩ (.fields "pond") := by
  have allowed : AccessPolicy.canAccess .default muddyReport ⟨"ann", "admin", none⟩ = true := by
    decide +kernel
  have opened : (openReport (muddyContext text) "stock" ⟨"ann", "admin", none⟩).result =
      .ok muddyReport := by
    unfold openReport ask
    rw [Traced.result_bind, Traced.result_ofExcept]
    exact congrArg Traced.result (if_pos allowed)
  have listed : liveForms muddyReport.config [.create "pond" "Pond" []] = [] ++ "pond" :: [] := by
    decide +kernel
  exact .fields opened rfl listed nofun

/-- Two texts that are not understood are told alike, whichever question they answer. One that says that
something does not exist is told with what it says. -/
theorem respond_backend_muddy :
    (respond (muddyContext "disk on fire") "stock" ⟨"ann", "admin", none⟩).result =
      (respond (deadContext "socket closed") "stock" ⟨"ann", "admin", none⟩).result ∧
    ∃ diagnostic, (respond (muddyContext "Table POND Does Not Exist") "stock"
        ⟨"ann", "admin", none⟩).result = .error diagnostic ∧
      diagnostic.status ≠ 500 ∧ diagnostic.detail = some "Table POND Does Not Exist" := by
  have unknown {text : String} (none : ErrorKind.ofBackendText? text = none) :
      ¬ ErrorKind.Understood text := by
    rintro ⟨entry, listed, occurs⟩
    exact ErrorKind.ofBackendText?_eq_none_iff.mp none entry listed occurs
  obtain ⟨_, hides, shows, _⟩ := respond_backend
  constructor
  · have muddy : ErrorKind.ofBackendText? "disk on fire" = none := by decide +kernel
    have dead : ErrorKind.ofBackendText? "socket closed" = none := by decide +kernel
    rw [hides (muddyContext "disk on fire") _ _ _ _ rfl (asks_muddyContext _) rfl (unknown muddy),
      hides (deadContext "socket closed") _ _ _ _ rfl .report rfl (unknown dead)]
  · have failed := execute_eq_store_iff.mpr
      ⟨_, asks_muddyContext "Table POND Does Not Exist", rfl⟩
    refine shows _ _ _ _ rfl failed fun question text asked unanswered => ?_
    have again := execute_eq_store_iff.mpr ⟨question, asked, unanswered⟩
    rw [failed] at again
    cases again
    by_contra lost
    have none := ErrorKind.ofBackendText?_eq_none_iff.mpr fun entry listed occurs =>
      lost ⟨entry, listed, occurs⟩
    exact absurd none (by decide +kernel)

end Engine

end FormReport
