import FormReport.Store
import Mathlib.Data.List.Induction
import Mathlib.Data.List.Nodup

set_option autoImplicit false

/- A store in memory told by its history. What a store answers after any row of operations is read off
the operations themselves: what stands is what was given and not ended by a later operation. -/
namespace FormReport.Store

/-- What can be done to a store. -/
inductive Operation where
  | insertForm (form : Form)
  | appendRecord (record : Record)
  | insertReport (report : Report)
  | deleteForm (formId : String)

def apply (store : Store) : Operation → Store
  | .insertForm form => store.insertForm form
  | .appendRecord record => store.appendRecord record
  | .insertReport report => store.insertReport report
  | .deleteForm formId => store.deleteForm formId

/-- The store that a history leads to, from an empty one. -/
def after (history : List Operation) : Store := history.foldl apply empty

namespace Operation

def form? : Operation → Option Form
  | insertForm form => some form
  | _ => none

def record? : Operation → Option Record
  | appendRecord record => some record
  | _ => none

def report? : Operation → Option Report
  | insertReport report => some report
  | _ => none

def deletes (formId : String) : Operation → Bool
  | deleteForm other => other = formId
  | _ => false

/-- Whether a form that stands under an id before an operation no longer does after it. -/
def ends (formId : String) : Operation → Bool
  | insertForm form => form.id = formId
  | deleteForm other => other = formId
  | _ => false

theorem ends_of_form? {operation : Operation} {form : Form} (given : operation.form? = some form)
    (formId : String) : operation.ends formId = decide (form.id = formId) := by
  cases operation <;> cases given
  rfl

end Operation

section

variable {α : Type}

/-- What the operations of a history give and no later one of them takes away, in the order in which it
is given. -/
def lasting (given : Operation → Option α) (lost : α → Operation → Bool) : List Operation → List α
  | [] => []
  | operation :: later =>
    ((given operation).toList.filter fun value => !later.any (lost value)) ++
      lasting given lost later

variable {given : Operation → Option α} {lost : α → Operation → Bool}

/-- One more operation takes away some of what there is and adds what it gives. -/
theorem lasting_concat (history : List Operation) (operation : Operation) :
    lasting given lost (history ++ [operation]) =
      (lasting given lost history).filter (fun value => !lost value operation) ++
        (given operation).toList := by
  induction history with
  | nil => simp [lasting]
  | cons first later ih =>
    have spared (value : α) : (!(later ++ [operation]).any (lost value)) =
        (!lost value operation && !later.any (lost value)) := by
      rw [List.any_append, List.any_cons, List.any_nil, Bool.or_false, Bool.not_or, Bool.and_comm]
    simp only [List.cons_append, lasting, spared, ih, List.filter_append, List.filter_filter,
      List.append_assoc]

end

/-- The forms that stand, in the order of their last insertion. -/
def formsIn (history : List Operation) : List Form :=
  lasting Operation.form? (fun form => Operation.ends form.id) history

/-- The records of forms that were not deleted since, in the order in which they were appended. -/
def recordsIn (history : List Operation) : List Record :=
  lasting Operation.record? (fun record => Operation.deletes record.formId) history

/-- The last version of a form, unless the form was deleted since. -/
def formIn? (history : List Operation) (formId : String) : Option Form :=
  (history.filter (Operation.ends formId)).getLast?.bind Operation.form?

/-- The last report under an id. -/
def reportIn? (history : List Operation) (reportId : String) : Option Report :=
  ((history.filterMap Operation.report?).filter (·.id = reportId)).getLast?

variable {history : List Operation}

theorem formsIn_concat (operation : Operation) : formsIn (history ++ [operation]) =
    (formsIn history).filter (fun form => !operation.ends form.id) ++ operation.form?.toList :=
  lasting_concat history operation

theorem recordsIn_concat (operation : Operation) : recordsIn (history ++ [operation]) =
    (recordsIn history).filter (fun record => !operation.deletes record.formId) ++
      operation.record?.toList :=
  lasting_concat history operation

theorem formIn?_concat (operation : Operation) (formId : String) :
    formIn? (history ++ [operation]) formId =
      if operation.ends formId then operation.form? else formIn? history formId := by
  unfold formIn?
  rw [List.filter_append]
  cases lost : operation.ends formId <;> simp [lost]

theorem reportIn?_concat (operation : Operation) (reportId : String) :
    reportIn? (history ++ [operation]) reportId =
      (operation.report?.filter (·.id = reportId)).or (reportIn? history reportId) := by
  unfold reportIn?
  rw [List.filterMap_append, List.filter_append]
  cases given : operation.report? with
  | none => simp [given]
  | some report => by_cases same : report.id = reportId <;> simp [given, same, Option.filter_some]

/-- Whether a store holds what a history gave it. -/
structure Tells (history : List Operation) (store : Store) : Prop where
  forms : store.forms = formsIn history
  records : store.records = recordsIn history
  reports : ∀ reportId, store.report? reportId = reportIn? history reportId

/-- An operation does to a store what it does to the history. -/
theorem Tells.apply {store : Store} (tells : Tells history store) (operation : Operation) :
    Tells (history ++ [operation]) (store.apply operation) := by
  obtain ⟨forms, records, reports⟩ := tells
  constructor
  · rw [formsIn_concat, ← forms]
    cases operation with
    | insertForm form =>
      simp [Store.apply, insertForm, Operation.form?, Operation.ends, eq_comm]
    | deleteForm formId =>
      simp [Store.apply, deleteForm, Operation.form?, Operation.ends, eq_comm]
    | _ => simp [Store.apply, appendRecord, insertReport, Operation.form?, Operation.ends]
  · rw [recordsIn_concat, ← records]
    cases operation with
    | deleteForm formId =>
      simp [Store.apply, deleteForm, Operation.record?, Operation.deletes, eq_comm]
    | _ => simp [Store.apply, insertForm, appendRecord, insertReport, Operation.record?,
        Operation.deletes]
  · intro reportId
    rw [reportIn?_concat, ← reports]
    cases operation with
    | insertReport report =>
      rw [report?, Store.apply, insertReport, Keyed.get?_set]
      by_cases same : reportId = report.id <;>
        simp [Operation.report?, report?, same, eq_comm, Option.filter_some]
    | _ => rfl

theorem tells_after (history : List Operation) : Tells history (after history) := by
  induction history using List.reverseRecOn with
  | nil => exact ⟨rfl, rfl, fun _ => rfl⟩
  | append_singleton earlier operation ih =>
    rw [after, List.foldl_concat]
    exact ih.apply operation

/-- Under an id stands the version that was inserted last. -/
theorem find?_formsIn (history : List Operation) (formId : String) :
    (formsIn history).find? (·.id = formId) = formIn? history formId := by
  induction history using List.reverseRecOn with
  | nil => rfl
  | append_singleton earlier operation ih =>
    have kept : ((formsIn earlier).filter fun form => !operation.ends form.id).find?
        (·.id = formId) = if operation.ends formId then none else formIn? earlier formId := by
      rw [List.find?_filter, ← ih]
      cases ended : operation.ends formId with
      | true =>
        refine List.find?_eq_none.mpr fun form _ => ?_
        by_cases here : form.id = formId <;> simp [here, ended]
      | false =>
        congr 1
        funext form
        by_cases here : form.id = formId <;> simp [here, ended]
    have added : operation.form?.toList.find? (·.id = formId) =
        if operation.ends formId then operation.form? else none := by
      cases given : operation.form? with
      | none => simp
      | some form => simp [Operation.ends_of_form? given]
    rw [formsIn_concat, formIn?_concat, List.find?_append, kept, added]
    split <;> simp

theorem nodup_formsIn (history : List Operation) : ((formsIn history).map (·.id)).Nodup := by
  induction history using List.reverseRecOn with
  | nil => exact List.nodup_nil
  | append_singleton earlier operation ih =>
    have kept := ih.sublist
      ((List.filter_sublist (p := fun form : Form => !operation.ends form.id)).map (·.id))
    rw [formsIn_concat, List.map_append]
    refine List.nodup_append.mpr ⟨kept, ?_, ?_⟩
    · cases operation.form? <;> simp
    · intro formId before another given same
      obtain ⟨form, inside, rfl⟩ := List.mem_map.mp before
      obtain ⟨added, here, rfl⟩ := List.mem_map.mp given
      have lost := Operation.ends_of_form? (Option.mem_toList.mp here) form.id
      have spared := (List.mem_filter.mp inside).2
      rw [lost, same] at spared
      simp at spared

/-- A form stands just when it is the last version of itself. -/
theorem mem_formsIn_iff {form : Form} :
    form ∈ formsIn history ↔ formIn? history form.id = some form := by
  rw [← find?_formsIn]
  constructor
  · intro inside
    obtain ⟨found, hit⟩ : ∃ found, (formsIn history).find? (·.id = form.id) = some found :=
      Option.isSome_iff_exists.mp (List.find?_isSome.mpr ⟨form, inside, decide_eq_true rfl⟩)
    have same : found.id = form.id := by simpa using List.find?_some hit
    rw [hit, List.inj_on_of_nodup_map (nodup_formsIn history) (List.mem_of_find?_eq_some hit)
      inside same]
  · exact List.mem_of_find?_eq_some

/-- After any history a store answers what the history says: the forms that stand have ids of their own,
each is its last version since it was deleted, and they are listed in the order of their last insertion;
a record is there, in the order of its arrival, until its form is deleted, however often the form is
replaced; and a report is the last under its id. -/
theorem source_after (history : List Operation) :
    ((after history).forms.map (·.id)).Nodup ∧
      (∀ form, form ∈ formsIn history ↔ formIn? history form.id = some form) ∧
      (after history).source.activeForms = .ok ((formsIn history).filter Form.isLive) ∧
      (∀ formId includeArchived, (after history).source.fields formId includeArchived =
        .ok (match formIn? history formId with
          | some form => form.fields.filter fun field => includeArchived || field.active
          | none => [])) ∧
      (∀ formIds site, (after history).source.records formIds site =
        .ok ((recordsIn history).filter fun record =>
          record.formId ∈ formIds ∧ (site = none ∨ site = some record.siteId))) ∧
      ∀ reportId, (after history).source.report? reportId = .ok (reportIn? history reportId) := by
  obtain ⟨forms, records, reports⟩ := tells_after history
  refine ⟨forms ▸ nodup_formsIn history, fun form => mem_formsIn_iff, ?_, ?_, ?_, ?_⟩
  · rw [← forms]
    rfl
  · intro formId includeArchived
    rw [← find?_formsIn, ← forms]
    rfl
  · intro formIds site
    have asked (record : Record) : (formIds.contains record.formId &&
        site.all (record.siteId = ·)) =
          decide (record.formId ∈ formIds ∧ (site = none ∨ site = some record.siteId)) := by
      cases site <;> simp [eq_comm]
    rw [← records]
    exact congrArg Except.ok (List.filter_congr fun record _ => asked record)
  · intro reportId
    rw [← reports]
    rfl

end FormReport.Store
