import FormReport.Proofs.DisplayKeys
import FormReport.Proofs.Reading

set_option autoImplicit false

/- Ids that two forms give to different fields. A display name is looked up in the rows of every form
under the ids that its fields have in all of them; where a form has another field under such an id,
a value of that field is taken for one of the name. -/
namespace FormReport

/-- The keys that stand for a display name: the name itself, the id that is declared with it, and the ids
of the fields of this name in any form. -/
def Catalog.StandsFor (catalog : Catalog) (name : String) (declaredId : Option String)
    (key : String) : Prop :=
  key = name ∨ declaredId = some key ∨ ∃ form ∈ catalog, key ∈ form.idsNamed name

namespace Accessor

/-- Whether a key from which a value is taken in a row of a form is never the id of a field of the form
that has another name. -/
def KeepsTo (accessor : Accessor) (form : FormFields) (name : String) : Prop :=
  ∀ (row : StoredRow) (key : String) (value : Json), row.formId = form.formId →
    row.firstStored? accessor.keys = some (key, value) →
    ∀ field ∈ form.fields, field.id = key → field.name = name

variable {catalog : Catalog} {name : String} {declaredId : Option String} {accessor : Accessor}

theorem mem_keys_iff_standsFor (made : ofName catalog name declaredId = .ok accessor) {key : String} :
    key ∈ accessor.keys ↔ catalog.StandsFor name declaredId key := by
  rw [mem_keys_ofName made, Catalog.mem_candidateKeys, Catalog.StandsFor, or_assoc,
    or_comm (b := declaredId = some key)]

/-- A stored value is taken from a key that stands for the name, whatever the form of the row has under
it. Values of fields of other names are left alone in a form just when no id of such a field
stands for the name. -/
theorem keepsTo_iff_of_ofName (made : ofName catalog name declaredId = .ok accessor) :
    (∀ (row : StoredRow) (key : String) (value : Json),
      row.firstStored? accessor.keys = some (key, value) →
        catalog.StandsFor name declaredId key ∧
          row.read accessor = row.typedAs key value accessor.valueType) ∧
      ∀ form : FormFields, accessor.KeepsTo form name ↔
        ∀ field ∈ form.fields, catalog.StandsFor name declaredId field.id → field.name = name := by
  have taken (row : StoredRow) (key : String) (value : Json)
      (found : row.firstStored? accessor.keys = some (key, value)) :
      catalog.StandsFor name declaredId key :=
    (mem_keys_iff_standsFor made).mp (StoredRow.mem_of_firstStored? found)
  refine ⟨fun row key value found =>
    ⟨taken row key value found, StoredRow.read_of_firstStored? found⟩, fun form => ⟨?_, ?_⟩⟩
  · -- A row with nothing but a value of the field shows where values are taken from.
    intro keeps field inside stands
    have probed : field.id ∈ accessor.keys := (mem_keys_iff_standsFor made).mpr stands
    exact keeps (.lone form.formId field.id (.bool true)) field.id (.bool true) rfl
      (StoredRow.firstStored?_lone rfl probed) field inside rfl
  · intro named row key value _ found field inside same
    exact named field inside (same ▸ taken row key value found)

/-- Fish that come in, with their species under an id. -/
def speciesIn : FormFields := ⟨"in", [.plain "s" "Species" .text]⟩

/-- Fish that go out, of which the weights are under an id of their own. -/
def speciesOut (weightId : String) : FormFields :=
  ⟨"out", [.plain "x" "Species" .text, .plain weightId "Weight" .number]⟩

theorem keepsTo_iff_of_ofName_species :
    ofName [speciesIn, speciesOut "w"] "Species" none = .ok ⟨["Species", "s", "x"], .text, []⟩ ∧
      KeepsTo ⟨["Species", "s", "x"], .text, []⟩ (speciesOut "w") "Species" := by
  have made : ofName [speciesIn, speciesOut "w"] "Species" none =
      .ok ⟨["Species", "s", "x"], .text, []⟩ := by decide +kernel
  refine ⟨made, ((keepsTo_iff_of_ofName made).2 (speciesOut "w")).mpr ?_⟩
  simp only [← mem_keys_iff_standsFor made]
  decide

/-- Weights under the id that the other form has for species are taken for species. -/
theorem not_keepsTo_of_ofName :
    ofName [speciesIn, speciesOut "s"] "Species" none = .ok ⟨["Species", "s", "x"], .text, []⟩ ∧
      StoredRow.read (.lone "out" "s" (.integer 5)) ⟨["Species", "s", "x"], .text, []⟩ =
        .ok (.number 5) ∧
      ¬ KeepsTo ⟨["Species", "s", "x"], .text, []⟩ (speciesOut "s") "Species" := by
  refine ⟨by decide +kernel, by decide +kernel, fun keeps => ?_⟩
  have named := keeps (.lone "out" "s" (.integer 5)) "s" (.integer 5) rfl rfl
    (.plain "s" "Weight" .number) (by decide) rfl
  exact absurd named (by decide)

end Accessor

end FormReport
