import FormReport.Error
import FormReport.Record
import FormReport.Report

set_option autoImplicit false

/- Where forms, records and reports come from. -/
namespace FormReport

/-- What a report engine asks of a backend. Every question can fail. -/
structure Source where
  activeForms : Except StoreError (List Form)
  /-- The fields of a form; archived ones only if they are asked for. -/
  fields : (formId : String) → (includeArchived : Bool) → Except StoreError (List Field)
  /-- The records of the given forms, and of one site if it is given. -/
  records : (formIds : List String) → (site : Option String) → Except StoreError (List Record)
  report? : (reportId : String) → Except StoreError (Option Report)

/-- A store in memory. Records are only ever appended. -/
structure Store where
  forms : List Form
  records : List Record
  reports : Keyed Report

namespace Store

def empty : Store := ⟨[], [], []⟩

/-- Puts a form at the end, in place of the one with its id. -/
def insertForm (store : Store) (form : Form) : Store :=
  { store with forms := store.forms.filter (·.id ≠ form.id) ++ [form] }

def appendRecord (store : Store) (record : Record) : Store :=
  { store with records := store.records ++ [record] }

/-- Puts a report under its id. -/
def insertReport (store : Store) (report : Report) : Store :=
  { store with reports := store.reports.set report.id report }

/-- Deletes a form with all its records. -/
def deleteForm (store : Store) (formId : String) : Store :=
  { store with
    forms := store.forms.filter (·.id ≠ formId)
    records := store.records.filter (·.formId ≠ formId) }

def liveForms (store : Store) : List Form := store.forms.filter Form.isLive

/-- The fields of a form, none for a form that is not there. -/
def fieldsOf (store : Store) (formId : String) (includeArchived : Bool) : List Field :=
  match store.forms.find? (·.id = formId) with
  | some form => form.fields.filter fun field => includeArchived || field.active
  | none => []

def recordsOf (store : Store) (formIds : List String) (site : Option String) : List Record :=
  store.records.filter fun record =>
    formIds.contains record.formId && site.all (record.siteId = ·)

def report? (store : Store) (reportId : String) : Option Report := store.reports.get? reportId

/-- The store as a backend that never fails. -/
def source (store : Store) : Source where
  activeForms := .ok store.liveForms
  fields formId includeArchived := .ok (store.fieldsOf formId includeArchived)
  records formIds site := .ok (store.recordsOf formIds site)
  report? reportId := .ok (store.report? reportId)

end Store

end FormReport
