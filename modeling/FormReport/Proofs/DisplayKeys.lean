import FormReport.Proofs.Aggregates
import FormReport.Proofs.Manifest
import FormReport.Proofs.Reading

set_option autoImplicit false

/- The keys under which a display column is looked up. They are its name, the ids of the fields that
bear this name in any form, and the ids of the selected fields that are shown under it; the ids of
aggregated fields are not among the last. -/
namespace FormReport

theorem Catalog.mem_candidateKeys {catalog : Catalog} {name key : String} :
    key ∈ catalog.candidateKeys name ↔ key = name ∨ ∃ form ∈ catalog, key ∈ form.idsNamed name := by
  rw [candidateKeys, List.mem_eraseDups, List.mem_cons, List.mem_flatMap]

namespace Accessor

theorem mem_keys_ofName {catalog : Catalog} {name : String} {declaredId : Option String}
    {accessor : Accessor} (made : ofName catalog name declaredId = .ok accessor) {key : String} :
    key ∈ accessor.keys ↔ key ∈ catalog.candidateKeys name ∨ declaredId = some key := by
  obtain ⟨derivations, _, same⟩ := bind_eq_ok.mp made
  cases same
  rw [List.mem_eraseDups, List.mem_append, Option.mem_toList]

end Accessor

namespace GroupingKey

/-- How the keys of a display column stand to the selected fields that it is made for: they are the
candidates of its name, and beside these only ids of fields that are shown under the name. -/
structure Collects (grouped : GroupingKey) (catalog : Catalog) (fields : List SelectedField) :
    Prop where
  candidates : ∀ key ∈ catalog.candidateKeys grouped.column, key ∈ grouped.accessor.keys
  others : ∀ key ∈ grouped.accessor.keys, key ∈ catalog.candidateKeys grouped.column ∨
    ∃ field ∈ fields, field.fieldId = key ∧ field.column catalog = grouped.column

variable {catalog : Catalog}

theorem Collects.concat {grouped : GroupingKey} {fields : List SelectedField}
    (collects : grouped.Collects catalog fields) (field : SelectedField) :
    grouped.Collects catalog (fields ++ [field]) := by
  refine ⟨collects.candidates, fun key member => ?_⟩
  rcases collects.others key member with candidate | ⟨earlier, known, shown⟩
  · exact .inl candidate
  · exact .inr ⟨earlier, List.mem_append_left _ known, shown⟩

/-- A column gains the key of a field that is shown under its name. -/
theorem Collects.gained {before : GroupingKey} {fields : List SelectedField}
    (collects : before.Collects catalog fields) {field : SelectedField}
    (shown : before.column = field.column catalog) :
    Collects { before with accessor := before.accessor.withKey field.fieldId } catalog
      (fields ++ [field]) := by
  obtain ⟨candidates, others⟩ := collects.concat field
  refine ⟨fun key candidate => Accessor.mem_keys_withKey.mpr (.inl (candidates key candidate)), ?_⟩
  intro key member
  rcases Accessor.mem_keys_withKey.mp member with old | rfl
  · exact others key old
  · exact .inr ⟨field, List.mem_append_right _ (List.mem_singleton_self _), rfl, shown.symm⟩

/-- A column that is made for the first field that is shown under its name. -/
theorem collects_of_ofName {fields : List SelectedField} {field : SelectedField} {column : String}
    {accessor : Accessor} (made : Accessor.ofName catalog column (some field.fieldId) = .ok accessor)
    (inside : field ∈ fields) (shown : field.column catalog = column) :
    Collects ⟨column, accessor⟩ catalog fields := by
  constructor
  · intro key candidate
    exact (Accessor.mem_keys_ofName made).mpr (.inl candidate)
  · intro key member
    rcases (Accessor.mem_keys_ofName made).mp member with candidate | declared
    · exact .inl candidate
    · exact .inr ⟨field, inside, Option.some.inj declared, shown⟩

theorem collects_of_ofFields {fields : List SelectedField} {grouping : List GroupingKey}
    (built : ofFields catalog fields = .ok grouping) :
    ∀ grouped ∈ grouping, grouped.Collects catalog fields := by
  refine foldlM_keeps (fun taken (grouping : List GroupingKey) =>
    ∀ grouped ∈ grouping, grouped.Collects catalog taken) ?_ [] fields [] grouping nofun built
  intro taken before field after held added grouped inside
  unfold add at added
  dsimp only at added
  split at added
  · cases added
    obtain ⟨earlier, known, rfl | ⟨column, rfl⟩⟩ := mem_addKey inside
    · exact (held grouped known).concat field
    · exact (held earlier known).gained column
  · obtain ⟨accessor, resolved, same⟩ := bind_eq_ok.mp added
    cases same
    rcases List.mem_append.mp inside with earlier | own
    · exact (held grouped earlier).concat field
    · rw [List.mem_singleton.mp own]
      exact collects_of_ofName resolved (List.mem_append_right _ (List.mem_singleton_self _)) rfl

end GroupingKey

/-- What is read under some keys does not depend on what is stored under another. -/
theorem probe_set {fields : Keyed Json} {name : String} (value : Json) {keys : List String}
    (apart : name ∉ keys) : probe (fields.set name value) keys = probe fields keys := by
  refine probe_congr fun key inside => ?_
  have other : key ≠ name := fun same => apart (same ▸ inside)
  rw [Keyed.get?_set, if_neg other]

namespace StoredRow

/-- A row with another value under a key. -/
def withValue (row : StoredRow) (key : String) (value : Json) : StoredRow :=
  { row with fields := row.fields.set key value }

/-- Nothing is computed where no formula is for the row's form. -/
theorem derived_of_not_mem (row : StoredRow) {derivations : List (String × Expression Accessor)}
    (plain : row.formId ∉ derivations.map Prod.fst) : row.derived derivations = .ok .missing := by
  induction derivations with
  | nil => rw [derived]
  | cons first rest ih =>
    obtain ⟨formId, formula⟩ := first
    rw [List.map_cons, List.mem_cons, not_or] at plain
    rw [derived, if_neg (Ne.symm plain.1), ih plain.2]

theorem read_withValue (row : StoredRow) {key : String} (value : Json) {accessor : Accessor}
    (apart : key ∉ accessor.keys) (plain : row.formId ∉ accessor.derivations.map Prod.fst) :
    (row.withValue key value).read accessor = row.read accessor := by
  obtain ⟨keys, valueType, derivations⟩ := accessor
  have stored : (row.withValue key value).probe keys = row.probe keys := by
    rw [probe, probe, withValue, probe_set value apart]
  have before : row.derived derivations = .ok .missing := row.derived_of_not_mem plain
  have after : (row.withValue key value).derived derivations = .ok .missing :=
    derived_of_not_mem (row.withValue key value) plain
  rw [read, read, stored, before, after]

end StoredRow

namespace PlanRequest

/-- No aggregated field is grouped by: its id is not that of a selected field that is displayed. -/
theorem fieldId_ne_of_grouped {settings : Settings} {request : PlanRequest} {stages : PlanStages}
    (accepted : stages.Accepted settings request) :
    ∀ planned ∈ stages.aggregates.columns,
      ∀ field ∈ groupingFields request.selected request.aggregations,
        field.fieldId ≠ planned.fieldId := by
  intro planned known field displayed same
  have represents := AggregatePlan.represents_of_ofAggregations accepted.aggregates
  obtain ⟨first, _, origin⟩ := represents.sound planned known
  have stands := AggregateColumn.standsFor_iff.mp (List.find?_some origin.earliest)
  have aggregated : request.aggregations.any (·.fieldId = field.fieldId) = true :=
    List.any_eq_true.mpr ⟨first, List.mem_of_find?_eq_some origin.earliest,
      decide_eq_true (stands.2.1.symm.trans same.symm)⟩
  have free := (List.mem_filter.mp displayed).2
  rw [aggregated] at free
  cases free

/-- An aggregated field is looked up under a display column just when it is by the name of that column,
which merges all fields of the name. Elsewhere its values do not tell rows apart, save through a
formula. -/
theorem aggregated_mem_keys_iff_of_compile {settings : Settings} {request : PlanRequest} {plan : Plan}
    {summary : PlanSummary} (compiled : (request.compile settings).result = .ok (plan, summary))
    {planned : AggregateColumn} (known : planned ∈ plan.aggregates) {key : GroupingKey}
    (displayed : key ∈ plan.grouping) :
    (planned.fieldId ∈ key.accessor.keys ↔ planned.fieldId = key.column ∨
      ∃ form ∈ request.catalog, planned.fieldId ∈ form.idsNamed key.column) ∧
    (planned.fieldId ∉ key.accessor.keys → ∀ (row : StoredRow) (value : Json),
      row.formId ∉ key.accessor.derivations.map Prod.fst →
        (row.withValue planned.fieldId value).read key.accessor = row.read key.accessor) := by
  obtain ⟨stages, accepted, rfl⟩ := compile_ok compiled
  have collects := GroupingKey.collects_of_ofFields accepted.grouping key displayed
  rw [← Catalog.mem_candidateKeys]
  refine ⟨⟨?_, collects.candidates _⟩, fun apart row value => row.read_withValue value apart⟩
  intro inside
  rcases collects.others _ inside with candidate | ⟨field, selected, same, _⟩
  · exact candidate
  · exact absurd same (fieldId_ne_of_grouped accepted planned known field selected)

theorem aggregated_mem_keys_iff_of_compile_note :
    ((labelled "Note").compile .default).result = .ok (labelledPlan "Note", labelledSummary) ∧
      ∀ planned ∈ (labelledPlan "Note").aggregates, ∀ key ∈ (labelledPlan "Note").grouping,
        planned.fieldId = "w" ∧ key.accessor.keys = ["Note", "note"] ∧
          "w" ∉ key.accessor.keys ∧ ∀ (row : StoredRow) (value : Json),
            (row.withValue "w" value).read key.accessor = row.read key.accessor := by
  have compiled : ((labelled "Note").compile .default).result =
      .ok (labelledPlan "Note", labelledSummary) := by decide +kernel
  refine ⟨compiled, ?_⟩
  intro planned known key displayed
  have aggregate := List.mem_singleton.mp known
  have grouping := List.mem_singleton.mp displayed
  obtain ⟨named, kept⟩ := aggregated_mem_keys_iff_of_compile compiled known displayed
  have apart : planned.fieldId ∉ key.accessor.keys := by
    rw [named, aggregate, grouping]
    decide
  have same (row : StoredRow) (value : Json) :
      (row.withValue planned.fieldId value).read key.accessor = row.read key.accessor := by
    refine kept apart row value ?_
    rw [grouping]
    exact List.not_mem_nil
  rw [aggregate] at apart same ⊢
  rw [grouping] at apart same ⊢
  exact ⟨rfl, rfl, apart, same⟩

/-- Species that come in and species that go out, of which the latter are counted for each of the
former. -/
def inAndOut : PlanRequest where
  config := { ReportConfig.empty with
    selectedForms := ["in", "out"]
    selectedFields := [⟨"in", "a", ""⟩]
    aggregations := [⟨"out", "b", "", .count⟩] }
  catalog := [⟨"in", [.plain "a" "Species" .text]⟩, ⟨"out", [.plain "b" "Species" .text]⟩]
  site := none

def inAndOutPlan : Plan where
  mode := .aggregate
  formIds := ["in", "out"]
  site := none
  filters := []
  grouping := [⟨"Species", ⟨["Species", "a", "b"], .text, []⟩⟩]
  aggregates := [
    ⟨"Species_count", "out", "b", "Species", .count, ⟨["Species", "b"], .text, []⟩, false⟩]
  calculations := []
  sort := []
  columns := ["Species", "Species_count"]

def inAndOutSummary : PlanSummary where
  mode := .aggregate
  forms := 2
  grouping := 1
  aggregates := 1
  calculations := 0
  filters := 0
  aliases := 0
  ignoredSorts := 0

/-- Both fields bear the name of the display column, so what goes out is told apart by the field that
is counted. -/
theorem aggregated_mem_keys_of_compile :
    (inAndOut.compile .default).result = .ok (inAndOutPlan, inAndOutSummary) ∧
      inAndOutPlan.mode.isGrouped = true ∧
      (∃ planned ∈ inAndOutPlan.aggregates, ∃ key ∈ inAndOutPlan.grouping,
        planned.fieldId ∈ key.accessor.keys) ∧
      inAndOutPlan.materialize [
        ⟨"1", "out", 0, [("b", .text "Carp")]⟩, ⟨"1", "out", 1, [("b", .text "Bass")]⟩] =
        .ok [[("Species", .text "Carp"), ("Species_count", .number 1)],
          [("Species", .text "Bass"), ("Species_count", .number 1)]] := by
  refine ⟨by decide +kernel, rfl, ?_, by decide +kernel⟩
  exact ⟨_, List.mem_cons_self, _, List.mem_cons_self, by decide⟩

end PlanRequest

end FormReport
