import FormReport.Proofs.Columns

set_option autoImplicit false

/- Plans are closed: what a formula or a sort key names is among the columns that the plan makes, and
what a formula reads is there in the mode of the plan. -/
namespace FormReport

namespace Expression

variable {ε ω α β : Type}

/-- The leaves of an expression from left to right. -/
def leaves : Expression α → List α
  | ref leaf => [leaf]
  | number _ => []
  | neg inner => inner.leaves
  | binary _ left right => left.leaves ++ right.leaves

theorem result_substitute (replace : α → Traced ω ε (Expression β)) (tree : Expression α) :
    (tree.substitute replace).result = tree.substitute fun leaf => (replace leaf).result := by
  induction tree with
  | ref leaf => rfl
  | number value => rfl
  | neg inner ih =>
    simp only [substitute, Traced.result_bind, Traced.result_pure, ih]
    rfl
  | binary operator left right left_ih right_ih =>
    simp only [substitute, Traced.result_bind, Traced.result_pure, left_ih, right_ih]
    rfl

/-- Every leaf after a substitution comes from what some leaf was replaced by. -/
theorem mem_leaves_substitute {replace : α → Except ε (Expression β)} {tree : Expression α}
    {formula : Expression β} (success : tree.substitute replace = .ok formula) {leaf : β}
    (inside : leaf ∈ formula.leaves) :
    ∃ name ∈ tree.leaves, ∃ part, replace name = .ok part ∧ leaf ∈ part.leaves := by
  induction tree generalizing formula with
  | ref name => exact ⟨name, List.mem_singleton_self name, formula, success, inside⟩
  | number value =>
    cases success
    cases inside
  | neg inner ih =>
    obtain ⟨lowered, replaced, same⟩ := bind_eq_ok.mp success
    cases same
    exact ih replaced inside
  | binary operator left right left_ih right_ih =>
    obtain ⟨first, replacedFirst, rest⟩ := bind_eq_ok.mp success
    obtain ⟨second, replacedSecond, same⟩ := bind_eq_ok.mp rest
    cases same
    rcases List.mem_append.mp inside with here | there
    · obtain ⟨name, member, found⟩ := left_ih replacedFirst here
      exact ⟨name, List.mem_append_left _ member, found⟩
    · obtain ⟨name, member, found⟩ := right_ih replacedSecond there
      exact ⟨name, List.mem_append_right _ member, found⟩

end Expression

/-- Whether a leaf can be read in a mode over some columns: finished columns in the grouped modes,
stored rows in raw mode. -/
def Leaf.Within (mode : Mode) (aggregates grouping : List String) : Leaf Accessor → Prop
  | .aggregate column => mode.isGrouped = true ∧ column ∈ aggregates
  | .grouping column => mode.isGrouped = true ∧ column ∈ grouping
  | .raw _ => mode.isGrouped = false

theorem AggregateName.mem_of_column? {names : List AggregateName} {reference column : String}
    (found : AggregateName.column? names reference = some column) :
    column ∈ names.map (·.column) := by
  unfold AggregateName.column? at found
  obtain ⟨name, hit, rfl⟩ := Option.map_eq_some_iff.mp found
  rcases Option.or_eq_some_iff.mp hit with byId | ⟨_, byName⟩
  · exact List.mem_map_of_mem (List.mem_of_find?_eq_some byId)
  · exact List.mem_map_of_mem (List.mem_of_find?_eq_some byName)

namespace CalculationScope

variable {scope : CalculationScope} {catalog : Catalog}

theorem column_of_groupingKey? {column : String} {key : GroupingKey}
    (found : scope.groupingKey? column = some key) :
    key.column ∈ scope.grouping.map (·.column) :=
  List.mem_map_of_mem (List.mem_of_find?_eq_some found)

theorem within_of_groupedLeaf? {calculation name : String} {leaf : Leaf Accessor}
    (grouped : scope.mode.isGrouped = true)
    (found : scope.groupedLeaf? catalog calculation name = .ok (some leaf)) :
    leaf.Within scope.mode (scope.aggregates.map (·.column)) (scope.grouping.map (·.column)) := by
  unfold groupedLeaf? at found
  split at found
  · rename_i column aggregated
    cases found
    exact ⟨grouped, AggregateName.mem_of_column? aggregated⟩
  · split at found
    · rename_i key displayed
      cases found
      exact ⟨grouped, column_of_groupingKey? displayed⟩
    · split at found
      · cases found
      · split at found
        · rename_i key displayed
          cases found
          exact ⟨grouped, column_of_groupingKey? displayed⟩
        · cases found

theorem within_of_rawLeaf? {name : String} {leaf : Leaf Accessor}
    (raw : scope.mode.isGrouped = false)
    (found : scope.rawLeaf? catalog name = .ok (some leaf)) :
    leaf.Within scope.mode (scope.aggregates.map (·.column)) (scope.grouping.map (·.column)) := by
  unfold rawLeaf? at found
  split at found
  · cases found
    exact raw
  · split at found
    · cases found
    · obtain ⟨accessor, _, same⟩ := bind_eq_ok.mp found
      cases same
      exact raw

theorem within_of_leaf? {calculation name : String} {leaf : Leaf Accessor}
    (found : scope.leaf? catalog calculation name = .ok (some leaf)) :
    leaf.Within scope.mode (scope.aggregates.map (·.column)) (scope.grouping.map (·.column)) := by
  unfold leaf? at found
  cases grouped : scope.mode.isGrouped with
  | true =>
    rw [grouped, if_pos rfl] at found
    exact within_of_groupedLeaf? grouped found
  | false =>
    rw [grouped] at found
    exact within_of_rawLeaf? grouped found

/-- Whatever a name is resolved to holds no leaf but its meaning; a name taken for zero holds none. -/
theorem leaf?_of_resolve {calculation name : String} {part : Formula}
    (resolved : (scope.resolve catalog calculation name).result = .ok part) {leaf : Leaf Accessor}
    (inside : leaf ∈ part.leaves) : scope.leaf? catalog calculation name = .ok (some leaf) := by
  unfold resolve at resolved
  rw [Traced.result_bind, Traced.result_ofExcept] at resolved
  obtain ⟨meaning, found, resolved⟩ := bind_eq_ok.mp resolved
  cases meaning with
  | some meant =>
    cases resolved
    cases List.mem_singleton.mp inside
    exact found
  | none =>
    dsimp only at resolved
    split at resolved
    · cases resolved
    · obtain ⟨_, _, same⟩ := bind_eq_ok.mp (Traced.result_bind _ _ ▸ resolved)
      cases same
      cases inside

/-- Every leaf of a formula is what some name in its source means. -/
theorem exists_leaf?_of_formula {calculation source : String} {formula : Formula}
    (lowered : (scope.formula catalog calculation source).result = .ok formula)
    {leaf : Leaf Accessor} (inside : leaf ∈ formula.leaves) :
    ∃ name, scope.leaf? catalog calculation name = .ok (some leaf) := by
  unfold CalculationScope.formula at lowered
  rw [Traced.result_bind, Traced.result_ofExcept] at lowered
  obtain ⟨tree, _, lowered⟩ := bind_eq_ok.mp lowered
  rw [Expression.result_substitute] at lowered
  obtain ⟨name, _, part, resolved, member⟩ := Expression.mem_leaves_substitute lowered inside
  exact ⟨name, leaf?_of_resolve resolved member⟩

end CalculationScope

namespace Plan

/-- Whether everything that a plan names is something that the plan makes. -/
structure Closed (plan : Plan) : Prop where
  shown : plan.columns ≠ []
  columns : plan.columns = plan.groupingColumns ++ plan.aggregates.map (·.column) ++
    plan.calculations.map (·.column)
  sort : ∀ key ∈ plan.sort, key.column ∈ plan.columns
  leaves : ∀ calculation ∈ plan.calculations, ∀ leaf ∈ calculation.formula.leaves,
    leaf.Within plan.mode (plan.aggregates.map (·.column)) plan.groupingColumns
  /-- Without groups there is nothing to aggregate. -/
  raw : plan.mode = .raw → plan.aggregates = []
  /-- A mode without a second stage has no work for one. -/
  aggregate : plan.mode = .aggregate → plan.calculations = []

end Plan

theorem SortOrder.mem_of_column? {order : SortOrder} {columns : List String}
    {selected : List SelectedField} {aggregates : List AggregateName} {column : String}
    (known : ∀ name ∈ aggregates.map (·.column), name ∈ columns)
    (found : order.column? columns selected aggregates = some column) : column ∈ columns := by
  unfold column? at found
  split at found
  · rename_i direct
    cases found
    exact direct
  · split at found
    · rename_i aggregated
      cases found
      exact known _ (AggregateName.mem_of_column? aggregated)
    · have shown := (Option.filter_eq_some_iff.mp found).2
      simpa using shown

namespace PlanStages

variable {stages : PlanStages} {settings : Settings} {request : PlanRequest}

@[simp] theorem columns_names (plan : AggregatePlan) :
    plan.names.map (·.column) = plan.columns.map (·.column) := by
  simp only [AggregatePlan.names, List.map_map]
  rfl

theorem aggregates_of_raw (raw : stages.mode request = .raw) : stages.aggregates.columns = [] := by
  unfold mode at raw
  cases none : stages.aggregates.columns with
  | nil => rfl
  | cons planned rest =>
    rw [none] at raw
    cases empty : request.config.calculations.isEmpty <;> rw [empty] at raw <;> cases raw

theorem calculations_of_aggregate (accepted : stages.Accepted settings request)
    (aggregate : stages.mode request = .aggregate) : stages.calculations = [] := by
  unfold mode at aggregate
  cases calculations : request.config.calculations with
  | nil =>
    have made := CalculationScope.columns_ok accepted.calculations
    rw [calculations] at made
    exact List.forall₂_nil_left_iff.mp made
  | cons calculation rest =>
    rw [calculations] at aggregate
    cases none : stages.aggregates.columns.isEmpty <;> rw [none] at aggregate <;> cases aggregate

theorem Accepted.closed (accepted : stages.Accepted settings request) :
    (stages.plan request).Closed := by
  refine ⟨accepted.shown, rfl, ?_, ?_, aggregates_of_raw, calculations_of_aggregate accepted⟩
  · intro key inside
    obtain ⟨order, _, found⟩ := List.mem_filterMap.mp inside
    obtain ⟨column, named, rfl⟩ := Option.map_eq_some_iff.mp found
    refine SortOrder.mem_of_column? ?_ named
    intro name aggregated
    rw [columns_names] at aggregated
    exact List.mem_append_left _ (List.mem_append_right _ aggregated)
  · intro calculation inside leaf member
    have made := CalculationScope.columns_ok accepted.calculations
    obtain ⟨source, _, planned⟩ := exists_of_forall₂ made.flip inside
    obtain ⟨name, meant⟩ := CalculationScope.exists_leaf?_of_formula planned.formula member
    have within := CalculationScope.within_of_leaf? meant
    change leaf.Within (stages.mode request) (stages.aggregates.names.map (·.column)) _ at within
    rwa [columns_names] at within

end PlanStages

theorem PlanRequest.closed_of_compile {settings : Settings} {request : PlanRequest} {plan : Plan}
    {summary : PlanSummary} (compiled : (request.compile settings).result = .ok (plan, summary)) :
    plan.Closed := by
  obtain ⟨stages, accepted, rfl⟩ := compile_ok compiled
  exact accepted.closed

end FormReport
