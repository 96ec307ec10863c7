import FormReport.Proofs.Frame
import FormReport.Proofs.Labels

set_option autoImplicit false

/- What the sort orders of a report sort by. A column is displayed under the label of its field, and
without a label under the display name of the field; a sort order that gives the id of the field knows
the label only. -/
namespace FormReport

/-- The columns of the aggregates of a plan with the ids and names by which they are found. -/
def Plan.aggregateNames (plan : Plan) : List AggregateName :=
  plan.aggregates.map fun planned => ⟨planned.fieldId, planned.fieldName, planned.column⟩

namespace PlanRequest

/-- What a sort order of a report sorts by in a plan, if it is not ignored. -/
def sortKey? (request : PlanRequest) (plan : Plan) (order : SortOrder) : Option SortKey :=
  (order.column? plan.columns request.selected plan.aggregateNames).map (⟨·, order.direction⟩)

/-- Whether a sort order means a field by its id and nothing else: it is not the name of a column, no
aggregate goes by it, and the field is the first selected one with this id. -/
structure SortsById (request : PlanRequest) (plan : Plan) (order : SortOrder)
    (field : SelectedField) : Prop where
  noColumn : order.field ∉ plan.columns
  noAggregate : ∀ planned ∈ plan.aggregates,
    planned.fieldId ≠ order.field ∧ planned.fieldName ≠ order.field
  first : request.selected.find? (·.fieldId = order.field) = some field

variable {request : PlanRequest} {plan : Plan} {order : SortOrder} {field : SelectedField}
  {settings : Settings} {summary : PlanSummary} {stages : PlanStages}

theorem SortsById.column?_eq_none (sorts : request.SortsById plan order field) :
    AggregateName.column? plan.aggregateNames order.field = none := by
  rw [AggregateName.column?_eq_none_iff]
  rintro ⟨_, inside, named⟩
  obtain ⟨planned, known, rfl⟩ := List.mem_map.mp inside
  obtain ⟨otherId, otherName⟩ := sorts.noAggregate planned known
  exact named.elim otherId otherName

/-- Such an order is looked for under the label of the field. -/
theorem SortsById.sortKey?_eq (sorts : request.SortsById plan order field) :
    request.sortKey? plan order =
      if Text.trim field.fieldName ∈ plan.columns then
        some ⟨Text.trim field.fieldName, order.direction⟩
      else none := by
  unfold sortKey? SortOrder.column?
  rw [if_neg sorts.noColumn, sorts.column?_eq_none, sorts.first]
  by_cases shown : Text.trim field.fieldName ∈ plan.columns <;> simp [shown]

/-- Every order that is not ignored has its key at its place, and the others are counted. An order by the
id of a field has the column of the field just when that column goes by a label, or by no name at all;
else it is taken for one by the column without a name, if there is one. -/
theorem sorts_of_compile (compiled : (request.compile settings).result = .ok (plan, summary)) :
    plan.sort = request.config.sortOrders.filterMap (request.sortKey? plan) ∧
      summary.ignoredSorts =
        request.config.sortOrders.countP (fun order => (request.sortKey? plan order).isNone) ∧
      ∀ order field, request.SortsById plan order field →
        field.column request.catalog ∈ plan.columns ∧
        (request.sortKey? plan order = some ⟨field.column request.catalog, order.direction⟩ ↔
          Text.trim field.fieldName ≠ "" ∨ field.column request.catalog = "") ∧
        (Text.trim field.fieldName = "" → request.sortKey? plan order =
          if "" ∈ plan.columns then some ⟨"", order.direction⟩ else none) := by
  obtain ⟨stages, accepted, rfl, rfl⟩ := summary_of_compile compiled
  refine ⟨rfl, ?_, ?_⟩
  · -- What is not kept is ignored, and what is ignored is not kept.
    have kept : (stages.plan request).sort.length = request.config.sortOrders.countP
        fun order => (request.sortKey? (stages.plan request) order).isSome :=
      List.length_filterMap_eq_countP
    have all := List.length_eq_countP_add_countP
      (fun order => (request.sortKey? (stages.plan request) order).isSome)
      (l := request.config.sortOrders)
    simp only [Bool.not_eq_true, Option.isSome_eq_false_iff, Bool.decide_eq_true] at all
    change request.config.sortOrders.length - (stages.plan request).sort.length = _
    omega
  · intro order field sorts
    have displayed := accepted.displayed_of_selected sorts.column?_eq_none sorts.first
    have shown : field.column request.catalog ∈ (stages.plan request).columns :=
      List.mem_append_left _ (accepted.column_mem_taken displayed)
    refine ⟨shown, ?_, fun blank => blank ▸ sorts.sortKey?_eq⟩
    rw [sorts.sortKey?_eq]
    by_cases blank : Text.trim field.fieldName = ""
    · rw [blank]
      constructor
      · intro found
        split at found
        · rw [Option.some.injEq, SortKey.mk.injEq] at found
          exact .inr found.1.symm
        · cases found
      · rintro (labelled | nameless)
        · exact absurd rfl labelled
        · rw [nameless] at shown ⊢
          exact if_pos shown
    · have column : field.column request.catalog = Text.trim field.fieldName := if_pos blank
      rw [← column, if_pos shown]
      exact iff_of_true rfl (.inl (column ▸ blank))

/-- The notes of a pond under a label, in descending order of the field. -/
def sortedNotes (label : String) : PlanRequest where
  config := { ReportConfig.empty with
    selectedForms := ["pond"]
    selectedFields := [⟨"pond", "note", label⟩]
    sortOrders := [⟨"note", .desc⟩] }
  catalog := [⟨"pond", [.plain "note" "Note" .text]⟩]
  site := none

def notesPlan (column : String) (keys : List String) (sort : List SortKey) : Plan where
  mode := .raw
  formIds := ["pond"]
  site := none
  filters := []
  grouping := [⟨column, ⟨keys, .text, []⟩⟩]
  aggregates := []
  calculations := []
  sort
  columns := [column]

def notesSummary (ignored : Nat) : PlanSummary where
  mode := .raw
  forms := 1
  grouping := 1
  aggregates := 0
  calculations := 0
  filters := 0
  aliases := 0
  ignoredSorts := ignored

/-- Under a label the order finds the column. -/
theorem sorts_of_compile_remark :
    ((sortedNotes "Remark").compile .default).result =
        .ok (notesPlan "Remark" ["Remark", "note"] [⟨"Remark", .desc⟩], notesSummary 0) ∧
      (sortedNotes "Remark").sortKey? (notesPlan "Remark" ["Remark", "note"] [⟨"Remark", .desc⟩])
        ⟨"note", .desc⟩ = some ⟨"Remark", .desc⟩ := by
  have compiled : ((sortedNotes "Remark").compile .default).result =
      .ok (notesPlan "Remark" ["Remark", "note"] [⟨"Remark", .desc⟩], notesSummary 0) := by decide +kernel
  obtain ⟨_, _, byId⟩ := sorts_of_compile compiled
  obtain ⟨_, sorts, _⟩ :=
    byId ⟨"note", .desc⟩ ⟨"pond", "note", "Remark"⟩ ⟨by decide, List.forall_mem_nil _, by decide⟩
  exact ⟨compiled, sorts.mpr (.inl (by decide +kernel))⟩

/-- Without one the same field is displayed, and the order of its id is ignored. -/
theorem ignores_displayed :
    ((sortedNotes "").compile .default).result =
        .ok (notesPlan "Note" ["Note", "note"] [], notesSummary 1) ∧
      (sortedNotes "").SortsById (notesPlan "Note" ["Note", "note"] []) ⟨"note", .desc⟩
        ⟨"pond", "note", ""⟩ ∧
      SelectedField.column ⟨"pond", "note", ""⟩ (sortedNotes "").catalog = "Note" :=
  ⟨by decide +kernel, ⟨by decide, List.forall_mem_nil _, by decide⟩, by decide +kernel⟩

end PlanRequest

end FormReport
