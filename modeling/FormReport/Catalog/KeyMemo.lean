import FormReport.Catalog.Basic
import FormReport.Keyed

set_option autoImplicit false

/- Candidate keys as they are collected field by field, and a memory of those that were collected. -/
namespace FormReport

/-- Puts a key behind the others unless it is one of them. -/
def appendKey (keys : List String) (key : String) : List String :=
  if key ∈ keys then keys else keys ++ [key]

/-- Drops the keys that repeat the one before them, where `last` stands before the first. -/
def dropRepeatsAfter (last : String) : List String → List String
  | [] => []
  | key :: rest =>
    if key = last then dropRepeatsAfter last rest else key :: dropRepeatsAfter key rest

def dropRepeats : List String → List String
  | [] => []
  | key :: rest => key :: dropRepeatsAfter key rest

/-- Puts the ids of the fields with a display name behind the keys. -/
def FormFields.appendIds (form : FormFields) (name : String) (keys : List String) : List String :=
  form.fields.foldl
    (fun keys field => if field.name = name then appendKey keys field.id else keys) keys

namespace Catalog

def collectKeys (catalog : Catalog) (name : String) : List String :=
  catalog.foldl (fun keys form => form.appendIds name keys) [name]

/-- The name and the id stand side by side, so that only they can be a repeat. -/
def collectKeysInForm (catalog : Catalog) (formId fieldId name : String) : List String :=
  let keys := [name, fieldId]
  dropRepeats <|
    match catalog.form? formId with
    | some form => form.appendIds name keys
    | none => keys

end Catalog

/-- A question for candidate keys. -/
inductive KeyRequest where
  /-- Those of a display name in all forms. -/
  | ofName (name : String)
  /-- Those of a field within its form. -/
  | inForm (formId fieldId name : String)

/-- A catalog and the keys of the display names that were asked for. -/
structure KeyMemo where
  catalog : Catalog
  known : Keyed (List String)

namespace KeyMemo

def new (catalog : Catalog) : KeyMemo := ⟨catalog, []⟩

/-- Answers a request. The keys of a display name are collected once. -/
def answer : KeyRequest → StateM KeyMemo (List String)
  | .ofName name => do
    let memo ← get
    match memo.known.get? name with
    | some keys => pure keys
    | none => do
      let keys := memo.catalog.collectKeys name
      set { memo with known := memo.known.set name keys }
      pure keys
  | .inForm formId fieldId name => do
    let memo ← get
    pure (memo.catalog.collectKeysInForm formId fieldId name)

end KeyMemo

end FormReport
