import FormReport.Proofs.Sequence
import FormReport.Run.Filter
import FormReport.Run.Group

set_option autoImplicit false

/- Which row of its record a stored row is shows in errors only. What can be read from it, and what
becomes of it, does not depend on the place. -/
namespace FormReport

/-- An error without the place of the row. -/
def RunError.unplaced : RunError → RunError
  | malformedPath recordId _ reason => .malformedPath recordId 0 reason
  | error => error

theorem Expression.eval_mapError {ε ε' α : Type} (change : ε → ε')
    (read : α → Except ε (Option Float)) (tree : Expression α) :
    tree.eval (fun leaf => (read leaf).mapError change) = (tree.eval read).mapError change := by
  induction tree with
  | ref leaf =>
    rw [eval, eval, mapError_bind]
    rfl
  | number literal => rfl
  | neg inner ih =>
    rw [eval, eval, ih, mapError_bind]
    rfl
  | binary operator left right left_ih right_ih =>
    simp only [eval, left_ih, right_ih, mapError_bind]
    rfl

namespace StoredRow

/-- A row as if it were the first of its record. -/
def unplaced (row : StoredRow) : StoredRow := { row with index := 0 }

theorem probe_unplaced (row : StoredRow) (keys : List String) :
    row.unplaced.probe keys = (row.probe keys).mapError RunError.unplaced := by
  unfold StoredRow.probe
  change (FormReport.probe row.fields keys).mapError _ = _
  cases FormReport.probe row.fields keys <;> rfl

mutual

theorem read_unplaced (row : StoredRow) : ∀ accessor : Accessor,
    row.unplaced.read accessor = (row.read accessor).mapError RunError.unplaced
  | ⟨keys, valueType, derivations⟩ => by
    rw [read, read, probe_unplaced, mapError_bind, derived_unplaced row derivations]
    congr 1
    funext stored
    split <;> rfl

theorem derived_unplaced (row : StoredRow) : ∀ derivations : List (String × Expression Accessor),
    row.unplaced.derived derivations = (row.derived derivations).mapError RunError.unplaced
  | [] => rfl
  | (formId, formula) :: rest => by
    rw [derived, derived, compute_unplaced row formula, derived_unplaced row rest]
    change (if formId = row.formId then _ else _) = _
    split
    · rw [mapError_bind]
      rfl
    · rfl

theorem compute_unplaced (row : StoredRow) : ∀ formula : Expression Accessor,
    row.unplaced.compute formula = (row.compute formula).mapError RunError.unplaced
  | .ref accessor => by
    rw [compute, compute, read_unplaced row accessor, mapError_bind]
    rfl
  | .number _ => rfl
  | .neg inner => by
    rw [compute, compute, compute_unplaced row inner, mapError_bind]
    rfl
  | .binary operator left right => by
    simp only [compute, compute_unplaced row left, compute_unplaced row right, mapError_bind]
    rfl

end

theorem leaf_unplaced (row : StoredRow) :
    row.unplaced.leaf = fun leaf => (row.leaf leaf).mapError RunError.unplaced := by
  funext leaf
  cases leaf with
  | aggregate column => rfl
  | grouping column => rfl
  | raw accessor =>
    rw [StoredRow.leaf, StoredRow.leaf, read_unplaced, mapError_bind]
    rfl

end StoredRow

namespace Plan

theorem input_unplaced (row : StoredRow) :
    input row.unplaced = fun planned => (input row planned).mapError RunError.unplaced := by
  funext planned
  unfold input
  rw [StoredRow.read_unplaced]
  change (if planned.formId = row.formId then _ else _) = _
  split
  · rw [mapError_bind]
    rfl
  · rfl

theorem group_unplaced (plan : Plan) (groups : List Group) (row : StoredRow) :
    plan.group groups row.unplaced = (plan.group groups row).mapError RunError.unplaced := by
  simp only [group, StoredRow.read_unplaced, input_unplaced, mapM_mapError, mapError_bind]
  rfl

theorem project_unplaced (plan : Plan) (row : StoredRow) :
    plan.project row.unplaced = (plan.project row).mapError RunError.unplaced := by
  have cells : (plan.grouping.mapM fun (key : GroupingKey) =>
        row.unplaced.read key.accessor >>= fun cell => .ok (key.column, cell)) =
      (plan.grouping.mapM fun (key : GroupingKey) =>
        row.read key.accessor >>= fun cell => .ok (key.column, cell)).mapError
          RunError.unplaced := by
    rw [← mapM_mapError]
    simp only [StoredRow.read_unplaced, mapError_bind]
    rfl
  have values : plan.calculated row.unplaced.leaf =
      (plan.calculated row.leaf).mapError RunError.unplaced := by
    rw [calculated, calculated, ← mapM_mapError, StoredRow.leaf_unplaced]
    simp only [Expression.eval_mapError, mapError_bind]
    rfl
  rw [project, project, cells, values]
  simp only [mapError_bind]
  rfl

/-- A plan makes the same of rows wherever they stand in their records. -/
theorem materialize_unplaced {plan : Plan} {rows : List StoredRow} {finished : List ResultRow} :
    plan.materialize (rows.map StoredRow.unplaced) = .ok finished ↔
      plan.materialize rows = .ok finished := by
  have groups : (rows.map StoredRow.unplaced).foldlM plan.group plan.initialGroups =
      (rows.foldlM plan.group plan.initialGroups).mapError RunError.unplaced := by
    simp only [List.foldlM_map, group_unplaced, foldlM_mapError]
  have aggregate (made : List ResultRow) :
      plan.aggregate (rows.map StoredRow.unplaced) = .ok made ↔ plan.aggregate rows = .ok made := by
    unfold Plan.aggregate
    simp only [groups, bind_eq_ok, mapError_eq_ok]
  unfold materialize
  split
  · rw [List.mapM_map]
    simp only [Function.comp_def, project_unplaced, mapM_mapError, mapError_eq_ok]
  · exact aggregate finished
  · simp only [bind_eq_ok, aggregate]

end Plan

end FormReport
