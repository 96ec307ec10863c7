import FormReport.Proofs.Manifest

set_option autoImplicit false

/- A finished row in two parts: the base, which holds the display columns and the aggregates, and the
calculations, which are set behind it. In all modes the calculations read what belongs to the base and
nothing of one another. -/
namespace FormReport

/-- A row without its calculations, and where these read from. -/
structure Base where
  row : ResultRow
  read : Leaf Accessor → Except RunError (Option Float)

namespace Plan

/-- The base of a stored row, when every stored row has a finished row of its own. -/
def rawBase (plan : Plan) (row : StoredRow) : Except RunError Base := do
  let cells ← plan.grouping.mapM fun key => do
    let cell ← row.read key.accessor
    .ok (key.column, cell)
  .ok ⟨Keyed.ofList cells, row.leaf⟩

/-- The bases of all finished rows, in order. -/
def bases (plan : Plan) (rows : List StoredRow) : Except RunError (List Base) :=
  if plan.mode.isGrouped then
    (plan.aggregate rows).map fun groups => groups.map fun row => ⟨row, ResultRow.leaf row⟩
  else rows.mapM plan.rawBase

/-- Sets the calculations behind a base. -/
def extend (plan : Plan) (base : Base) : Except RunError ResultRow := do
  let values ← plan.calculated base.read
  .ok (values.foldl (fun row value => row.set value.1 value.2) base.row)

theorem project_eq (plan : Plan) :
    plan.project = fun row => plan.rawBase row >>= plan.extend := by
  funext row
  unfold project rawBase extend
  cases plan.grouping.mapM fun key => do
      let cell ← row.read key.accessor
      Except.ok (key.column, cell) with
  | error error => rfl
  | ok cells =>
    change (plan.calculated row.leaf >>= _) = (plan.calculated row.leaf >>= _)
    congr 1
    funext values
    rw [Keyed.ofList, List.foldl_append]
    rfl

theorem extend_of_calculations_eq_nil {plan : Plan} (none : plan.calculations = []) (base : Base) :
    plan.extend base = .ok base.row := by
  simp only [extend, calculated, none, List.mapM_nil]
  rfl

/-- The rows of a plan are its bases with the calculations, whichever of the three stages has made
them. -/
theorem bases_of_materialize {plan : Plan} (closed : plan.Closed) {rows : List StoredRow}
    {finished : List ResultRow} (success : plan.materialize rows = .ok finished) :
    ∃ bases, plan.bases rows = .ok bases ∧
      List.Forall₂ (fun base row => plan.extend base = .ok row) bases finished := by
  unfold materialize at success
  split at success
  · rename_i raw
    rw [project_eq] at success
    obtain ⟨bases, made, extended⟩ := mapM_bind_eq_ok success
    refine ⟨bases, ?_, mapM_eq_ok.mp extended⟩
    rw [Plan.bases, raw]
    exact made
  · rename_i aggregate
    refine ⟨finished.map fun row => ⟨row, ResultRow.leaf row⟩, ?_, ?_⟩
    · rw [Plan.bases, aggregate, success]
      rfl
    · rw [List.forall₂_map_left_iff, List.forall₂_same]
      exact fun row _ => extend_of_calculations_eq_nil (closed.aggregate aggregate) _
  · rename_i both
    obtain ⟨groups, aggregated, calculated⟩ := bind_eq_ok.mp success
    refine ⟨groups.map fun row => ⟨row, ResultRow.leaf row⟩, ?_, ?_⟩
    · rw [Plan.bases, both, aggregated]
      rfl
    · rw [List.forall₂_map_left_iff]
      exact mapM_eq_ok.mp calculated

/-- The calculations leave the cells of the base alone. -/
theorem get?_of_extend {plan : Plan} {base : Base} {row : ResultRow}
    (extended : plan.extend base = .ok row) {column : String}
    (other : column ∉ plan.calculations.map (·.column)) : row.get? column = base.row.get? column := by
  obtain ⟨values, calculated, same⟩ := bind_eq_ok.mp extended
  cases same
  rw [names_of_calculated calculated] at other
  exact Keyed.get?_foldl_set_of_not_mem other base.row

/-- A calculation has the value of its own formula over the base. -/
theorem get?_calculation_of_extend {plan : Plan} {base : Base} {row : ResultRow}
    (distinct : (plan.calculations.map (·.column)).Nodup) (extended : plan.extend base = .ok row)
    {calculation : CalculationColumn} (planned : calculation ∈ plan.calculations) :
    ∃ value, calculation.formula.eval base.read = .ok value ∧
      row.get? calculation.column = some (Cell.ofNumber? value) := by
  obtain ⟨values, calculated, same⟩ := bind_eq_ok.mp extended
  cases same
  obtain ⟨entry, paired, computed⟩ := exists_of_forall₂ (mapM_eq_ok.mp calculated) planned
  obtain ⟨value, evaluated, same⟩ := bind_eq_ok.mp computed
  cases same
  rw [names_of_calculated calculated] at distinct
  exact ⟨value, evaluated,
    Keyed.get?_foldl_set_of_mem distinct (List.of_mem_zip paired).2 base.row⟩

end Plan

namespace PlanStages.Accepted

variable {stages : PlanStages} {settings : Settings} {request : PlanRequest}

/-- Calculations have names of their own. -/
theorem fresh_calculations (accepted : stages.Accepted settings request) :
    (∀ column ∈ stages.calculations.map (·.column), column ≠ "" ∧ column ∉ stages.taken) ∧
      (stages.calculations.map (·.column)).Nodup :=
  CalculationScope.fresh_of_columns accepted.calculations

theorem calculation_names (accepted : stages.Accepted settings request) :
    stages.calculations.map (·.column) =
      request.config.calculations.map fun calculation => Text.trim calculation.name :=
  (map_eq_of_forall₂ (CalculationScope.columns_ok accepted.calculations)
    fun _ _ made => made.column.symm).symm

end PlanStages.Accepted

end FormReport
