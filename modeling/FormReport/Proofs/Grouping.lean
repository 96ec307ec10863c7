import FormReport.Proofs.Sequence
import FormReport.Run.Group

set_option autoImplicit false

/- Grouping told from its result: the groups are the classes of rows with one key, in the order in
which the keys first appear, and a group holds what its own rows give and nothing else. -/
namespace FormReport

namespace AggregateColumn

/-- The cells that rows give to an aggregate: those of its own form do, in order. -/
def contributions (planned : AggregateColumn) (rows : List StoredRow) :
    Except RunError (List Cell) :=
  (rows.filter fun row => planned.formId = row.formId).mapM fun row => row.read planned.accessor

def accumulated (planned : AggregateColumn) (cells : List Cell) : Accumulator :=
  cells.foldl Accumulator.push (.new planned.function)

/-- Whether a state is what rows have left behind. -/
def StateAfter (planned : AggregateColumn) (rows : List StoredRow) (state : Accumulator) : Prop :=
  ∃ cells, planned.contributions rows = .ok cells ∧ state = planned.accumulated cells

theorem stateAfter_nil (planned : AggregateColumn) :
    planned.StateAfter [] (.new planned.function) := ⟨[], rfl, rfl⟩

/-- A row of the aggregate's form moves the state by one cell, any other leaves it. -/
theorem StateAfter.push {planned : AggregateColumn} {rows : List StoredRow} {state : Accumulator}
    (after : planned.StateAfter rows state) (row : StoredRow) (input : Option Cell)
    (given : Plan.input row planned = .ok input) :
    planned.StateAfter (rows ++ [row]) ((input.map state.push).getD state) := by
  obtain ⟨cells, contributed, rfl⟩ := after
  unfold Plan.input at given
  split at given
  · rename_i own
    obtain ⟨cell, read, same⟩ := bind_eq_ok.mp given
    cases same
    refine ⟨cells ++ [cell], ?_, ?_⟩
    · unfold contributions at contributed ⊢
      rw [List.filter_append, List.mapM_append, contributed]
      simp [own, read, bind, Except.bind, pure, Except.pure]
    · simp only [accumulated, List.foldl_append, List.foldl_cons, List.foldl_nil, Option.map_some,
        Option.getD_some]
  · rename_i other
    cases given
    refine ⟨cells, ?_, rfl⟩
    unfold contributions at contributed ⊢
    simpa [List.filter_append, other] using contributed

end AggregateColumn

namespace Plan

/-- The cells of a row in the grouping columns. -/
def groupingCells (plan : Plan) (row : StoredRow) : Except RunError (List Cell) :=
  plan.grouping.mapM fun key => row.read key.accessor

/-- The texts by which a row is grouped, if its cells can be read. -/
def groupKey? (plan : Plan) (row : StoredRow) : Option (List (Option String)) :=
  (plan.groupingCells row).toOption.map fun cells => cells.map Cell.groupKey

/-- The keys of all groups, in the order in which rows first show them. Without grouping columns
there is one group, whether there are rows or not. -/
def groupKeys (plan : Plan) (rows : List StoredRow) : List (List (Option String)) :=
  if plan.grouping.isEmpty then [[]] else (rows.filterMap plan.groupKey?).eraseDups

/-- The rows of one group, in order. -/
def members (plan : Plan) (rows : List StoredRow) (key : List (Option String)) : List StoredRow :=
  rows.filter fun row => plan.groupKey? row = some key

theorem groupKey?_of_ok {plan : Plan} {row : StoredRow} {cells : List Cell}
    (read : plan.groupingCells row = .ok cells) :
    plan.groupKey? row = some (cells.map Cell.groupKey) := by
  simp only [groupKey?, read, Except.toOption, Option.map_some]

theorem groupingCells_of_isEmpty {plan : Plan} (none : plan.grouping.isEmpty) (row : StoredRow) :
    plan.groupingCells row = .ok [] := by
  rw [List.isEmpty_iff] at none
  simp only [groupingCells, none, List.mapM_nil]
  rfl

theorem groupKeys_nodup (plan : Plan) (rows : List StoredRow) : (plan.groupKeys rows).Nodup := by
  unfold groupKeys
  split
  · exact List.nodup_singleton _
  · exact nodup_eraseDups _

/-- A row adds its key behind the others unless it is there already. -/
theorem groupKeys_concat {plan : Plan} {row : StoredRow} {cells : List Cell}
    (rows : List StoredRow) (read : plan.groupingCells row = .ok cells) :
    plan.groupKeys (rows ++ [row]) =
      if cells.map Cell.groupKey ∈ plan.groupKeys rows then plan.groupKeys rows
      else plan.groupKeys rows ++ [cells.map Cell.groupKey] := by
  unfold groupKeys
  split
  · rename_i none
    rw [groupingCells_of_isEmpty none] at read
    cases read
    simp
  · rw [List.filterMap_append, List.filterMap_cons_some (groupKey?_of_ok read),
      List.filterMap_nil, eraseDups_concat]
    simp only [List.mem_eraseDups]

theorem members_concat {plan : Plan} {row : StoredRow} {cells : List Cell} (rows : List StoredRow)
    (read : plan.groupingCells row = .ok cells) (key : List (Option String)) :
    plan.members (rows ++ [row]) key =
      if key = cells.map Cell.groupKey then plan.members rows key ++ [row]
      else plan.members rows key := by
  unfold members
  rw [List.filter_append]
  by_cases own : key = cells.map Cell.groupKey
  · simp [own, groupKey?_of_ok read]
  · have other : ¬ cells.map Cell.groupKey = key := fun same => own same.symm
    simp [own, other, groupKey?_of_ok read]

theorem members_eq_nil {plan : Plan} {rows : List StoredRow} {key : List (Option String)}
    (some : plan.grouping.isEmpty = false) :
    plan.members rows key = [] ↔ key ∉ plan.groupKeys rows := by
  simp [members, groupKeys, some, List.filter_eq_nil_iff, List.mem_eraseDups]

/-- A key that a row brings for the first time has no rows before it. -/
theorem members_of_new_key {plan : Plan} {row : StoredRow} {cells : List Cell}
    {rows : List StoredRow} (read : plan.groupingCells row = .ok cells)
    (absent : cells.map Cell.groupKey ∉ plan.groupKeys rows) :
    plan.members rows (cells.map Cell.groupKey) = [] := by
  cases none : plan.grouping.isEmpty with
  | false => exact (members_eq_nil none).mpr absent
  | true =>
    rw [groupingCells_of_isEmpty none] at read
    cases read
    simp [groupKeys, none] at absent

/-- The cells of the first row of a group; a group without rows has none. -/
def firstCells (plan : Plan) : List StoredRow → Except RunError (List Cell)
  | [] => .ok []
  | first :: _ => plan.groupingCells first

end Plan

namespace Group

@[simp] theorem key_push (group : Group) (inputs : List (Option Cell)) :
    (group.push inputs).key = group.key := rfl

@[simp] theorem key_start (plan : Plan) (cells : List Cell) :
    (start plan cells).key = cells.map Cell.groupKey := rfl

theorem keys_add (plan : Plan) (cells : List Cell) (inputs : List (Option Cell))
    (groups : List Group) :
    (add plan cells inputs groups).map (·.key) =
      if cells.map Cell.groupKey ∈ groups.map (·.key) then groups.map (·.key)
      else groups.map (·.key) ++ [cells.map Cell.groupKey] := by
  induction groups with
  | nil => simp [add]
  | cons group rest ih =>
    by_cases same : group.key = cells.map Cell.groupKey
    · simp [add, same]
    · have apart : ¬ cells.map Cell.groupKey = group.key := fun equal => same equal.symm
      simp only [add, same, ↓reduceIte, List.map_cons, ih, List.mem_cons, apart, false_or]
      split <;> rfl

/-- A group after a row is a group of another key as it was, the group of the row's key with the row
pushed, or a new one that only the row has gone into. -/
theorem mem_add {plan : Plan} {cells : List Cell} {inputs : List (Option Cell)}
    {groups : List Group} {group : Group} (distinct : (groups.map (·.key)).Nodup)
    (inside : group ∈ add plan cells inputs groups) :
    (group ∈ groups ∧ group.key ≠ cells.map Cell.groupKey) ∨
      (∃ before ∈ groups, before.key = cells.map Cell.groupKey ∧ group = before.push inputs) ∨
      (cells.map Cell.groupKey ∉ groups.map (·.key) ∧
        group = (start plan cells).push inputs) := by
  induction groups with
  | nil =>
    rw [add, List.mem_singleton] at inside
    exact Or.inr (Or.inr ⟨by simp, inside⟩)
  | cons head rest ih =>
    obtain ⟨fresh, distinct⟩ := List.nodup_cons.mp distinct
    by_cases same : head.key = cells.map Cell.groupKey
    · rw [add, if_pos same] at inside
      rcases List.mem_cons.mp inside with rfl | later
      · exact Or.inr (Or.inl ⟨head, List.mem_cons_self, same, rfl⟩)
      · refine Or.inl ⟨List.mem_cons_of_mem _ later, fun equal => fresh ?_⟩
        exact List.mem_map.mpr ⟨group, later, equal.trans same.symm⟩
    · rw [add, if_neg same] at inside
      rcases List.mem_cons.mp inside with rfl | later
      · exact Or.inl ⟨List.mem_cons_self, same⟩
      · rcases ih distinct later with ⟨kept, other⟩ | ⟨before, kept, own, rfl⟩ | ⟨absent, rfl⟩
        · exact Or.inl ⟨List.mem_cons_of_mem _ kept, other⟩
        · exact Or.inr (Or.inl ⟨before, List.mem_cons_of_mem _ kept, own, rfl⟩)
        · refine Or.inr (Or.inr ⟨?_, rfl⟩)
          rw [List.map_cons, List.mem_cons, not_or]
          exact ⟨fun equal => same equal.symm, absent⟩

/-- Whether a group shows the cells of the first of some rows and has taken in these rows only. -/
structure Describes (plan : Plan) (rows : List StoredRow) (group : Group) : Prop where
  cells : plan.firstCells rows = .ok group.cells
  states : List.Forall₂ (fun planned state => planned.StateAfter rows state) plan.aggregates
    group.states

theorem describes_nil (plan : Plan) : (start plan []).Describes plan [] := by
  refine ⟨rfl, ?_⟩
  rw [start, List.forall₂_map_right_iff, List.forall₂_same]
  exact fun planned _ => planned.stateAfter_nil

theorem states_push {plan : Plan} {rows : List StoredRow} {group : Group} {row : StoredRow}
    {inputs : List (Option Cell)}
    (held : List.Forall₂ (fun planned state => planned.StateAfter rows state) plan.aggregates
      group.states)
    (given : plan.aggregates.mapM (Plan.input row) = .ok inputs) :
    List.Forall₂ (fun planned state => planned.StateAfter (rows ++ [row]) state) plan.aggregates
      (group.push inputs).states :=
  forall₂_zipWith (fun _ _ input after read => after.push row input read) held
    (mapM_eq_ok.mp given)

theorem describes_first {plan : Plan} {row : StoredRow} {cells : List Cell}
    {inputs : List (Option Cell)} (read : plan.groupingCells row = .ok cells)
    (given : plan.aggregates.mapM (Plan.input row) = .ok inputs) :
    ((start plan cells).push inputs).Describes plan [row] :=
  ⟨read, states_push (describes_nil plan).states given⟩

/-- A further row leaves the cells alone. A group without rows has no cells that could change. -/
theorem Describes.push {plan : Plan} {rows : List StoredRow} {group : Group} {row : StoredRow}
    {inputs : List (Option Cell)} (described : group.Describes plan rows)
    (waits : rows = [] → plan.grouping.isEmpty = true)
    (given : plan.aggregates.mapM (Plan.input row) = .ok inputs) :
    (group.push inputs).Describes plan (rows ++ [row]) := by
  refine ⟨?_, states_push described.states given⟩
  have shown := described.cells
  cases rows with
  | nil =>
    change plan.groupingCells row = .ok group.cells
    rw [← Except.ok.inj shown]
    exact Plan.groupingCells_of_isEmpty (waits rfl) row
  | cons first others => exact shown

end Group

/-- The link between the rows taken in so far and the groups: these stand in the order in which
their keys appeared, and each describes the rows of its key. -/
structure Grouped (plan : Plan) (rows : List StoredRow) (groups : List Group) : Prop where
  readable : ∀ row ∈ rows, ∃ cells, plan.groupingCells row = .ok cells
  keys : groups.map (·.key) = plan.groupKeys rows
  described : ∀ group ∈ groups, group.Describes plan (plan.members rows group.key)

namespace Grouped

theorem initial (plan : Plan) : Grouped plan [] plan.initialGroups := by
  refine ⟨by simp, ?_, ?_⟩
  · unfold Plan.initialGroups Plan.groupKeys
    split <;> simp
  · intro group inside
    unfold Plan.initialGroups at inside
    split at inside
    · rw [List.mem_singleton.mp inside]
      exact Group.describes_nil plan
    · cases inside

/-- A group has members unless it is the only one and waits for its first row. -/
theorem isEmpty_of_members_eq_nil {plan : Plan} {rows : List StoredRow} {groups : List Group}
    (grouped : Grouped plan rows groups) {group : Group} (inside : group ∈ groups)
    (none : plan.members rows group.key = []) : plan.grouping.isEmpty = true := by
  by_contra some
  rw [Bool.not_eq_true] at some
  apply (Plan.members_eq_nil some).mp none
  rw [← grouped.keys]
  exact List.mem_map.mpr ⟨group, inside, rfl⟩

theorem step {plan : Plan} {rows : List StoredRow} {before after : List Group} {row : StoredRow}
    (grouped : Grouped plan rows before) (stepped : plan.group before row = .ok after) :
    Grouped plan (rows ++ [row]) after := by
  obtain ⟨cells, read, rest⟩ := bind_eq_ok.mp stepped
  obtain ⟨inputs, given, same⟩ := bind_eq_ok.mp rest
  cases same
  change plan.groupingCells row = .ok cells at read
  have distinct : (before.map (·.key)).Nodup := by
    rw [grouped.keys]
    exact plan.groupKeys_nodup rows
  refine ⟨?_, ?_, ?_⟩
  · intro other inside
    rcases List.mem_append.mp inside with earlier | last
    · exact grouped.readable other earlier
    · rw [List.mem_singleton.mp last]
      exact ⟨cells, read⟩
  · rw [Group.keys_add, Plan.groupKeys_concat rows read, grouped.keys]
  · intro group inside
    -- Only the group of the row's key gains a member, and only that group is pushed to.
    rw [Plan.members_concat rows read]
    rcases Group.mem_add distinct inside with ⟨kept, other⟩ | ⟨old, kept, own, rfl⟩ | ⟨absent, rfl⟩
    · rw [if_neg other]
      exact grouped.described group kept
    · rw [Group.key_push, if_pos own]
      exact (grouped.described old kept).push (grouped.isEmpty_of_members_eq_nil kept) given
    · rw [grouped.keys] at absent
      rw [Group.key_push, Group.key_start, if_pos rfl, Plan.members_of_new_key read absent]
      exact Group.describes_first read given

theorem run {plan : Plan} {rows : List StoredRow} {groups : List Group}
    (success : rows.foldlM plan.group plan.initialGroups = .ok groups) :
    Grouped plan rows groups :=
  foldlM_keeps (Grouped plan) (fun _ _ _ _ grouped stepped => grouped.step stepped) [] rows _ _
    (initial plan) success

end Grouped

namespace Plan

/-- Whether a finished row is that of a group with the given rows. The grouping cells are read from
the first of them. An aggregate is the value of its function for the cells that the rows of its own
form give, taken in one after the other. -/
structure IsRowOf (plan : Plan) (rows : List StoredRow) (finished : ResultRow) : Prop where
  columns : finished.keys = plan.groupingColumns ++ plan.aggregates.map (·.column)
  grouping : ∀ key ∈ plan.grouping, ∃ first cell, rows.head? = some first ∧
    first.read key.accessor = .ok cell ∧ finished.get? key.column = some cell
  aggregates : ∀ planned ∈ plan.aggregates, ∃ cells, planned.contributions rows = .ok cells ∧
    finished.get? planned.column =
      some (.number ((planned.accumulated cells).finish planned.roundsToInteger))

theorem aggregateCell_eq_ok {planned : AggregateColumn} {state : Accumulator}
    {value : String × Cell} (made : aggregateCell planned state = .ok value) :
    value = (planned.column, .number (state.finish planned.roundsToInteger)) := by
  unfold aggregateCell at made
  dsimp only at made
  split at made
  · exact (Except.ok.inj made).symm
  · cases made

/-- The entries of a group's finished row, before a column could be set twice. -/
structure EntriesOf (plan : Plan) (rows : List StoredRow) (entries : List (String × Cell)) :
    Prop where
  columns : entries.map Prod.fst = plan.groupingColumns ++ plan.aggregates.map (·.column)
  grouping : ∀ key ∈ plan.grouping, ∃ first cell, rows.head? = some first ∧
    first.read key.accessor = .ok cell ∧ (key.column, cell) ∈ entries
  aggregates : ∀ planned ∈ plan.aggregates, ∃ cells, planned.contributions rows = .ok cells ∧
    (planned.column, .number ((planned.accumulated cells).finish planned.roundsToInteger)) ∈ entries

/-- The cells that a group shows are those of its first row, one for each grouping column. -/
theorem shown_cells {plan : Plan} {rows : List StoredRow} {group : Group}
    (described : group.Describes plan rows) (waits : rows = [] → plan.grouping.isEmpty = true) :
    List.Forall₂ (fun (key : GroupingKey) cell =>
      ∃ first, rows.head? = some first ∧ first.read key.accessor = .ok cell)
      plan.grouping group.cells := by
  have shown := described.cells
  cases rows with
  | nil =>
    have none := List.isEmpty_iff.mp (waits rfl)
    rw [none, ← Except.ok.inj shown]
    exact .nil
  | cons first others => exact (mapM_eq_ok.mp shown).imp fun _ _ read => ⟨first, rfl, read⟩

theorem groupRow_entries {plan : Plan} {rows : List StoredRow} {group : Group}
    {finished : ResultRow} (described : group.Describes plan rows)
    (waits : rows = [] → plan.grouping.isEmpty = true)
    (made : plan.groupRow group = .ok finished) :
    ∃ entries, finished = Keyed.ofList entries ∧ plan.EntriesOf rows entries := by
  obtain ⟨values, each, same⟩ := bind_eq_ok.mp made
  cases same
  have shown := shown_cells described waits
  have finishedStates : List.Forall₂ (fun (planned : AggregateColumn) (value : String × Cell) =>
      ∃ cells, planned.contributions rows = .ok cells ∧ value = (planned.column,
        .number ((planned.accumulated cells).finish planned.roundsToInteger)))
      plan.aggregates values := by
    refine (forall₂_of_zip described.states (mapM_eq_ok.mp each)).imp ?_
    rintro planned value ⟨state, ⟨cells, contributed, rfl⟩, finished⟩
    exact ⟨cells, contributed, aggregateCell_eq_ok finished⟩
  refine ⟨_, rfl, ?_, ?_, ?_⟩
  · have atMost : plan.groupingColumns.length ≤ group.cells.length := by
      rw [groupingColumns, List.length_map]
      exact Nat.le_of_eq shown.length_eq
    have names : plan.aggregates.map (·.column) = values.map Prod.fst := by
      apply map_eq_of_forall₂ finishedStates
      rintro planned value ⟨_, _, rfl⟩
      rfl
    rw [List.map_append, List.map_fst_zip atMost, names]
  · intro key inside
    obtain ⟨cell, paired, first, headed, read⟩ := exists_of_forall₂ shown inside
    refine ⟨first, cell, headed, read, List.mem_append_left _ ?_⟩
    rw [groupingColumns, List.zip_map_left]
    exact List.mem_map.mpr ⟨(key, cell), paired, rfl⟩
  · intro planned inside
    obtain ⟨value, paired, cells, contributed, rfl⟩ := exists_of_forall₂ finishedStates inside
    exact ⟨cells, contributed, List.mem_append_right _ (List.of_mem_zip paired).2⟩

/-- Where no two columns have one name, nothing that is set into the row is lost. -/
theorem EntriesOf.isRowOf {plan : Plan} {rows : List StoredRow} {entries : List (String × Cell)}
    (known : plan.EntriesOf rows entries)
    (distinct : (plan.groupingColumns ++ plan.aggregates.map (·.column)).Nodup) :
    plan.IsRowOf rows (Keyed.ofList entries) := by
  rw [← known.columns] at distinct
  rw [Keyed.ofList_of_nodup entries distinct]
  refine ⟨known.columns, ?_, ?_⟩
  · intro key inside
    obtain ⟨first, cell, headed, read, entry⟩ := known.grouping key inside
    exact ⟨first, cell, headed, read, Keyed.get?_of_mem distinct entry⟩
  · intro planned inside
    obtain ⟨cells, contributed, entry⟩ := known.aggregates planned inside
    exact ⟨cells, contributed, Keyed.get?_of_mem distinct entry⟩

/-- The classes of rows under distinct keys hold every row as often as it is there. -/
theorem flatMap_filter_perm {α κ : Type} [DecidableEq κ] {keys : List κ} (distinct : keys.Nodup)
    (key? : α → Option κ) (rows : List α)
    (known : ∀ row ∈ rows, ∃ key ∈ keys, key? row = some key) :
    (keys.flatMap fun key => rows.filter fun row => key? row = some key).Perm rows := by
  induction keys generalizing rows with
  | nil =>
    cases rows with
    | nil => exact .nil
    | cons row rest =>
      obtain ⟨_, impossible, _⟩ := known row List.mem_cons_self
      cases impossible
  | cons key rest ih =>
    obtain ⟨fresh, distinct⟩ := List.nodup_cons.mp distinct
    have others : (rest.flatMap fun other => rows.filter fun row => key? row = some other) =
        rest.flatMap fun other => (rows.filter fun row => !decide (key? row = some key)).filter
          fun row => key? row = some other := by
      apply List.flatMap_congr
      intro other inside
      rw [List.filter_filter]
      apply List.filter_congr
      intro row _
      by_cases own : key? row = some other
      · have apart : other ≠ key := fun same => fresh (same ▸ inside)
        simp [own, apart]
      · simp [own]
    have remaining := ih distinct (rows.filter fun row => !decide (key? row = some key)) (by
      intro row inside
      obtain ⟨kept, other⟩ := List.mem_filter.mp inside
      obtain ⟨found, member, shown⟩ := known row kept
      rcases List.mem_cons.mp member with rfl | later
      · simp [shown] at other
      · exact ⟨found, later, shown⟩)
    rw [List.flatMap_cons, others]
    exact (remaining.append_left _).trans (List.filter_append_perm _ rows)

theorem mem_groupKeys {plan : Plan} {rows : List StoredRow} {row : StoredRow} {cells : List Cell}
    (inside : row ∈ rows) (read : plan.groupingCells row = .ok cells) :
    cells.map Cell.groupKey ∈ plan.groupKeys rows := by
  unfold groupKeys
  split
  · rename_i none
    rw [groupingCells_of_isEmpty none] at read
    cases read
    exact List.mem_singleton_self _
  · rw [List.mem_eraseDups]
    exact List.mem_filterMap.mpr ⟨row, inside, groupKey?_of_ok read⟩

/-- The finished rows come from the groups, in the order in which their keys first appear. -/
theorem aggregate_entries {plan : Plan} {rows : List StoredRow} {finished : List ResultRow}
    (success : plan.aggregate rows = .ok finished) :
    List.Forall₂ (fun key row => ∃ entries, row = Keyed.ofList entries ∧
      plan.EntriesOf (plan.members rows key) entries) (plan.groupKeys rows) finished := by
  obtain ⟨groups, collected, each⟩ := bind_eq_ok.mp success
  have grouped := Grouped.run collected
  rw [← grouped.keys, List.forall₂_map_left_iff]
  have all := (List.forall₂_and_left groups finished).mpr
    ⟨fun group inside => inside, mapM_eq_ok.mp each⟩
  refine all.imp ?_
  rintro group row ⟨inside, made⟩
  exact groupRow_entries (grouped.described group inside)
    (grouped.isEmpty_of_members_eq_nil inside) made

theorem groupingCells_of_aggregate {plan : Plan} {rows : List StoredRow}
    {finished : List ResultRow} (success : plan.aggregate rows = .ok finished) :
    ∀ row ∈ rows, ∃ cells, plan.groupingCells row = .ok cells := by
  obtain ⟨groups, collected, _⟩ := bind_eq_ok.mp success
  exact (Grouped.run collected).readable

/-- Every row is in one group, and each group has the finished row that its rows give. -/
theorem aggregate_rows_of_groups (plan : Plan) (rows : List StoredRow) (finished : List ResultRow)
    (distinct : (plan.groupingColumns ++ plan.aggregates.map (·.column)).Nodup)
    (success : plan.aggregate rows = .ok finished) :
    (plan.groupKeys rows).Nodup ∧
      ((plan.groupKeys rows).flatMap (plan.members rows)).Perm rows ∧
      List.Forall₂ (fun key row => plan.IsRowOf (plan.members rows key) row)
        (plan.groupKeys rows) finished := by
  refine ⟨plan.groupKeys_nodup rows, ?_, ?_⟩
  · apply flatMap_filter_perm (plan.groupKeys_nodup rows)
    intro row inside
    obtain ⟨cells, read⟩ := groupingCells_of_aggregate success row inside
    exact ⟨_, mem_groupKeys inside read, groupKey?_of_ok read⟩
  · refine (aggregate_entries success).imp ?_
    rintro key row ⟨entries, rfl, known⟩
    exact known.isRowOf distinct

/-- Two forms that share a grouping column, with an aggregate of each. -/
def stockPlan : Plan where
  mode := .aggregate
  formIds := ["in", "out"]
  site := none
  filters := []
  grouping := [⟨"Species", ⟨["Species"], .text, []⟩⟩]
  aggregates := [
    ⟨"In_sum", "in", "qty", "In", .sum, ⟨["In", "qty"], .number, []⟩, false⟩,
    ⟨"Out_count", "out", "qty", "Out", .count, ⟨["Out", "qty"], .number, []⟩, false⟩]
  calculations := []
  sort := []
  columns := ["Species", "In_sum", "Out_count"]

/-- Rows of both forms in turn; the second kind has a value under the first aggregate's keys. -/
def stockRows : List StoredRow := [
  ⟨"1", "in", 0, [("Species", .text "Carp"), ("qty", .integer 2)]⟩,
  ⟨"2", "out", 0, [("Species", .text "Carp"), ("In", .integer 9), ("qty", .integer 7)]⟩,
  ⟨"3", "in", 0, [("Species", .text "Bass")]⟩,
  ⟨"3", "in", 1, [("Species", .text "Carp"), ("qty", .integer 3)]⟩]

theorem aggregate_rows_of_groups_stock :
    (stockPlan.groupKeys stockRows).Nodup ∧
      ((stockPlan.groupKeys stockRows).flatMap (stockPlan.members stockRows)).Perm stockRows ∧
      List.Forall₂ (fun key row => stockPlan.IsRowOf (stockPlan.members stockRows key) row)
        (stockPlan.groupKeys stockRows) [
          [("Species", .text "Carp"), ("In_sum", .number 5), ("Out_count", .number 1)],
          [("Species", .text "Bass"), ("In_sum", .number 0), ("Out_count", .number 0)]] :=
  aggregate_rows_of_groups stockPlan stockRows _ (by decide) (by decide +kernel)

end Plan

end FormReport
