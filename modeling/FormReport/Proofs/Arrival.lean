import FormReport.Proofs.Alike
import FormReport.Proofs.FirstSeen

set_option autoImplicit false

/- The order in which records arrive. It decides the order of the rows of a report and which cells
stand for a group, but not the texts of the groups, their counts, or what is computed from these. -/
namespace FormReport

section

variable {ε α β : Type}

/-- Work on the members of a list in another order gives the same results in another order. -/
theorem perm_of_mapM {work : α → Except ε β} {inputs others : List α} {outputs results : List β}
    (perm : inputs.Perm others) (success : inputs.mapM work = .ok outputs)
    (again : others.mapM work = .ok results) : outputs.Perm results := by
  obtain ⟨middle, each, same⟩ := List.perm_comp_forall₂ perm (mapM_eq_ok.mp again)
  rw [← mapM_eq_ok, success] at each
  exact Except.ok.inj each ▸ same

/-- Lists that match in place match behind the same names. -/
theorem forall₂_zip {Related : α → β → Prop} {lefts : List α} {rights : List β}
    (names : List String) (each : List.Forall₂ Related lefts rights) :
    List.Forall₂ (fun left right => left.1 = right.1 ∧ Related left.2 right.2) (names.zip lefts)
      (names.zip rights) := by
  induction each generalizing names with
  | nil =>
    rw [List.zip_nil_right, List.zip_nil_right]
    exact .nil
  | cons head _ ih =>
    cases names with
    | nil => exact .nil
    | cons name rest => exact .cons ⟨rfl, head⟩ (ih rest)

end

/-- A count goes up by one with every cell that is not blank. -/
theorem Accumulator.foldl_push_of_count (state : Accumulator) (counting : state.function = .count)
    (cells : List Cell) : cells.foldl Accumulator.push state =
      { state with count := state.count + cells.countP fun cell => !cell.isBlank } := by
  induction cells generalizing state with
  | nil => rfl
  | cons cell rest ih =>
    have step : state.push cell =
        if cell.isBlank then state else { state with count := state.count + 1 } := by
      rw [Accumulator.push, counting]
    rw [List.foldl_cons, step, List.countP_cons]
    cases cell.isBlank with
    | true => exact ih state counting
    | false =>
      refine (ih { state with count := state.count + 1 } counting).trans ?_
      simp [Nat.add_assoc, Nat.add_comm 1]

namespace AggregateColumn

/-- A count is that of the cells that are not blank. -/
theorem accumulated_count {planned : AggregateColumn} (counts : planned.function = .count)
    (cells : List Cell) : planned.accumulated cells =
      { Accumulator.new .count with count := cells.countP fun cell => !cell.isBlank } := by
  rw [accumulated, counts, Accumulator.foldl_push_of_count _ rfl]
  simp [Accumulator.new]

/-- The same rows leave the same count behind, whatever their order. -/
theorem state_eq_of_perm {planned : AggregateColumn} (counts : planned.function = .count)
    {rows others : List StoredRow} (perm : rows.Perm others) {state other : Accumulator}
    (after : planned.StateAfter rows state) (again : planned.StateAfter others other) :
    state = other := by
  obtain ⟨cells, contributed, rfl⟩ := after
  obtain ⟨more, contributedOther, rfl⟩ := again
  have same := perm_of_mapM (perm.filter _) contributed contributedOther
  rw [accumulated_count counts, accumulated_count counts, same.countP_eq]

end AggregateColumn

namespace ResultRow

/-- Whether two rows have the same texts in the same columns. -/
def SameTexts (row other : ResultRow) : Prop :=
  ∀ column, (row.get? column).map Cell.groupKey = (other.get? column).map Cell.groupKey

theorem SameTexts.set {row other : ResultRow} (same : row.SameTexts other) (name : String)
    {cell another : Cell} (texts : cell.groupKey = another.groupKey) :
    SameTexts (row.set name cell) (other.set name another) := by
  intro column
  rw [Keyed.get?_set, Keyed.get?_set]
  split
  · exact congrArg some texts
  · exact same column

/-- Entries of the same names and texts, set one after the other. -/
theorem SameTexts.foldl_set {entries others : List (String × Cell)}
    (each : List.Forall₂ (fun entry other => entry.1 = other.1 ∧
      entry.2.groupKey = other.2.groupKey) entries others) {row other : ResultRow}
    (same : row.SameTexts other) :
    SameTexts (entries.foldl (fun row entry => row.set entry.1 entry.2) row)
      (others.foldl (fun row entry => row.set entry.1 entry.2) other) := by
  induction each generalizing row other with
  | nil => exact same
  | cons head _ ih =>
    obtain ⟨name, texts⟩ := head
    rw [List.foldl_cons, List.foldl_cons, name]
    exact ih (same.set _ texts)

/-- What is set last is the same whatever was there before. -/
theorem get?_foldl_set_congr {values : List (String × Cell)} {column : String}
    (inside : column ∈ values.map Prod.fst) (row other : ResultRow) :
    Keyed.get? (values.foldl (fun row value => row.set value.1 value.2) row) column =
      Keyed.get? (values.foldl (fun row value => row.set value.1 value.2) other) column := by
  induction values generalizing row other with
  | nil => cases inside
  | cons value rest ih =>
    rw [List.foldl_cons, List.foldl_cons]
    by_cases later : column ∈ rest.map Prod.fst
    · exact ih later _ _
    · have here : column = value.1 := (List.mem_cons.mp inside).resolve_right later
      rw [Keyed.get?_foldl_set_of_not_mem later, Keyed.get?_foldl_set_of_not_mem later,
        Keyed.get?_set, Keyed.get?_set, if_pos here, if_pos here]

end ResultRow

namespace Plan

/-- Whether two finished rows of groups are the same but for the cells that stand for the groups. -/
structure SameGroup (plan : Plan) (row other : ResultRow) : Prop where
  texts : row.SameTexts other
  counts : ∀ planned ∈ plan.aggregates, row.get? planned.column = other.get? planned.column

variable {plan : Plan} {rows others : List StoredRow}

theorem members_perm (perm : rows.Perm others) (key : List (Option String)) :
    (plan.members rows key).Perm (plan.members others key) := perm.filter _

theorem groupKeys_perm (perm : rows.Perm others) :
    (plan.groupKeys rows).Perm (plan.groupKeys others) := by
  refine (List.perm_ext_iff_of_nodup (plan.groupKeys_nodup rows) (plan.groupKeys_nodup others)).mpr ?_
  intro key
  unfold groupKeys
  split
  · rfl
  · rw [List.mem_eraseDups, List.mem_eraseDups, (perm.filterMap _).mem_iff]

end Plan

/-- The texts of the cells of a group are its key. -/
theorem Grouped.groupKey_cells {plan : Plan} {rows : List StoredRow} {groups : List Group}
    (grouped : Grouped plan rows groups) {group : Group} (inside : group ∈ groups) :
    group.cells.map Cell.groupKey = group.key := by
  have shown := (grouped.described group inside).cells
  cases members : plan.members rows group.key with
  | nil =>
    have none := grouped.isEmpty_of_members_eq_nil inside members
    have known : group.key ∈ plan.groupKeys rows := grouped.keys ▸ List.mem_map_of_mem inside
    rw [Plan.groupKeys, if_pos none, List.mem_singleton] at known
    rw [members] at shown
    rw [known, ← Except.ok.inj shown]
    rfl
  | cons first rest =>
    have own : plan.groupKey? first = some group.key := by
      have member : first ∈ plan.members rows group.key := members ▸ List.mem_cons_self
      simpa using (List.mem_filter.mp member).2
    rw [members] at shown
    rw [Plan.groupKey?_of_ok shown] at own
    exact Option.some.inj own

namespace Plan

variable {plan : Plan} {rows others : List StoredRow}

/-- Groups over the same rows in another order have one state. -/
theorem states_eq (counts : ∀ planned ∈ plan.aggregates, planned.function = .count)
    (perm : rows.Perm others) {group other : Group} (described : group.Describes plan rows)
    (again : other.Describes plan others) : group.states = other.states := by
  have each := (List.forall₂_and_left plan.aggregates group.states).mpr ⟨counts, described.states⟩
  rw [← List.forall₂_eq_eq_eq]
  refine (forall₂_of_common each again.states).imp ?_
  rintro state another ⟨planned, ⟨count, after⟩, afterOther⟩
  exact AggregateColumn.state_eq_of_perm count perm after afterOther

/-- Groups with the same texts and states have finished rows that are the same but for their cells. -/
theorem sameGroup_of_groupRow {group other : Group}
    (width : plan.aggregates.length = group.states.length)
    (texts : group.cells.map Cell.groupKey = other.cells.map Cell.groupKey)
    (states : group.states = other.states) {row another : ResultRow}
    (made : plan.groupRow group = .ok row) (again : plan.groupRow other = .ok another) :
    plan.SameGroup row another := by
  obtain ⟨values, each, same⟩ := bind_eq_ok.mp made
  cases same
  obtain ⟨results, eachOther, same⟩ := bind_eq_ok.mp again
  cases same
  rw [← states, each] at eachOther
  cases eachOther
  have cells : List.Forall₂ (fun cell another => cell.groupKey = another.groupKey) group.cells
      other.cells := by
    rwa [← List.forall₂_eq_eq_eq, List.forall₂_map_left_iff, List.forall₂_map_right_iff] at texts
  constructor
  · refine ResultRow.SameTexts.foldl_set (List.rel_append (forall₂_zip _ cells) ?_) fun _ => rfl
    exact List.forall₂_same.mpr fun _ _ => ⟨rfl, rfl⟩
  · intro planned known
    have named : planned.column ∈ values.map Prod.fst := by
      have names : (plan.aggregates.zip group.states).map (fun pair => pair.1.column) =
          values.map Prod.fst := map_eq_of_forall₂ (mapM_eq_ok.mp each)
        fun _ _ made => (congrArg Prod.fst (aggregateCell_eq_ok made)).symm
      rw [← List.map_fst_zip width.le] at known
      obtain ⟨pair, inside, rfl⟩ := List.mem_map.mp known
      exact names ▸ List.mem_map_of_mem inside
    rw [Keyed.ofList, Keyed.ofList, List.foldl_append, List.foldl_append]
    exact ResultRow.get?_foldl_set_congr named _ _

/-- The rows of the groups are the same in another order, but for the cells that stand for them. -/
theorem aggregate_perm (counts : ∀ planned ∈ plan.aggregates, planned.function = .count)
    (perm : rows.Perm others) {finished results : List ResultRow}
    (success : plan.aggregate rows = .ok finished) (again : plan.aggregate others = .ok results) :
    ∃ middle, middle.Perm results ∧ List.Forall₂ plan.SameGroup finished middle := by
  obtain ⟨groups, collected, each⟩ := bind_eq_ok.mp success
  obtain ⟨more, collectedOther, eachOther⟩ := bind_eq_ok.mp again
  have grouped := Grouped.run collected
  have groupedOther := Grouped.run collectedOther
  -- The groups of the second run are paired with those of the first by their keys.
  have keys : (groups.map (·.key)).Perm (more.map (·.key)) := by
    rw [grouped.keys, groupedOther.keys]
    exact groupKeys_perm perm
  have own : List.Forall₂ (fun key (group : Group) => key = group.key) (more.map (·.key)) more :=
    List.forall₂_map_left_iff.mpr (List.forall₂_same.mpr fun _ _ => rfl)
  obtain ⟨partners, paired, moved⟩ := List.perm_comp_forall₂ keys own
  obtain ⟨middle, eachPartner, same⟩ := List.perm_comp_forall₂ moved (mapM_eq_ok.mp eachOther)
  refine ⟨middle, same, ?_⟩
  have partnered := forall₂_of_common (List.forall₂_map_left_iff.mp paired).flip
    ((List.forall₂_and_left partners middle).mpr
      ⟨fun _ inside => moved.mem_iff.mp inside, eachPartner⟩)
  refine (forall₂_of_common ((List.forall₂_and_left groups finished).mpr
    ⟨fun _ inside => inside, mapM_eq_ok.mp each⟩) partnered).imp ?_
  rintro row another ⟨group, ⟨inside, made⟩, partner, key, within, madeOther⟩
  have described := grouped.described group inside
  have describedOther := groupedOther.described partner within
  refine sameGroup_of_groupRow described.states.length_eq ?_ ?_ made madeOther
  · rw [grouped.groupKey_cells inside, groupedOther.groupKey_cells within, key]
  · exact states_eq counts (members_perm perm group.key) described (key ▸ describedOther)

end Plan

namespace ResultRow

theorem numberAt_aggregate (row : ResultRow) (column : String) :
    Expression.numberAt (leaf row) (.aggregate column) = (number? row column).getD 0 :=
  Expression.numberAt_ok rfl

theorem numberAt_grouping (row : ResultRow) (column : String) :
    Expression.numberAt (leaf row) (.grouping column) = (number? row column).getD 0 :=
  Expression.numberAt_ok rfl

/-- A column is one number in rows that show one text in it, if neither shows a date or both do. -/
theorem number?_alike {row other : ResultRow} {column : String}
    (texts : (row.get? column).map Cell.groupKey = (other.get? column).map Cell.groupKey)
    (dates : (row.get? column).any Cell.isDate = (other.get? column).any Cell.isDate) :
    Number.AlikeIfAny (number? row column) (number? other column) := by
  unfold number?
  cases shown : row.get? column with
  | none =>
    rw [shown, Option.map_none, eq_comm, Option.map_eq_none_iff] at texts
    rw [texts]
    exact .none
  | some cell =>
    rw [shown, Option.map_some, eq_comm, Option.map_eq_some_iff] at texts
    obtain ⟨another, shownOther, same⟩ := texts
    rw [shown, shownOther] at dates
    rw [shownOther]
    exact Cell.number?_alike same.symm dates

/-- Whether two rows have cells in a column that are related. -/
def Match (related : Cell → Cell → Prop) (row other : ResultRow) (column : String) : Prop :=
  ∃ cell another, row.get? column = some cell ∧ other.get? column = some another ∧
    related cell another

theorem match_refl {related : Cell → Cell → Prop} (refl : ∀ cell, related cell cell)
    {row : ResultRow} {columns : List String} (fits : row.Fits columns) {column : String}
    (inside : column ∈ columns) : row.Match related row column := by
  obtain ⟨cell, found⟩ := fits.exists_cell inside
  exact ⟨cell, cell, found, found, refl cell⟩

end ResultRow

/-- Whether no column that a calculation reads shows a date in one of two rows only. -/
def CalculationColumn.SeesSameDates (calculation : CalculationColumn) (row other : ResultRow) :
    Prop :=
  ∀ column, .grouping column ∈ calculation.formula.leaves →
    (row.get? column).any Cell.isDate = (other.get? column).any Cell.isDate

namespace Plan

/-- Whether two finished rows have the same texts in the grouping columns and the same aggregates, and
the same values of all calculations that do not see a date in one of them only. -/
structure Corresponds (plan : Plan) (row other : ResultRow) : Prop where
  texts : ∀ column ∈ plan.groupingColumns,
    row.Match (fun cell another => cell.groupKey = another.groupKey) other column
  aggregates : ∀ planned ∈ plan.aggregates, row.Match Eq other planned.column
  calculations : ∀ calculation ∈ plan.calculations, calculation.SeesSameDates row other →
    row.Match Cell.Same other calculation.column

variable {plan : Plan} {rows others : List StoredRow}

theorem corresponds_refl (closed : plan.Closed) {row : ResultRow} (fits : row.Fits plan.columns) :
    plan.Corresponds row row := by
  rw [closed.columns] at fits
  constructor
  · intro column inside
    exact ResultRow.match_refl (fun cell => (rfl : cell.groupKey = cell.groupKey)) fits
      (List.mem_append_left _ (List.mem_append_left _ inside))
  · intro planned inside
    exact ResultRow.match_refl (fun _ => rfl) fits
      (List.mem_append_left _ (List.mem_append_right _ (List.mem_map_of_mem inside)))
  · intro calculation inside _
    exact ResultRow.match_refl .refl fits (List.mem_append_right _ (List.mem_map_of_mem inside))

/-- A leaf is one number to both rows of a group, unless it is a date in one of them. -/
theorem SameGroup.alike {row other : ResultRow} (same : plan.SameGroup row other)
    {leaf : Leaf Accessor} (grouped : plan.mode.isGrouped = true)
    (within : leaf.Within plan.mode (plan.aggregates.map (·.column)) plan.groupingColumns)
    (dates : ∀ column, leaf = .grouping column →
      (row.get? column).any Cell.isDate = (other.get? column).any Cell.isDate) :
    Number.Alike (Expression.numberAt (ResultRow.leaf row) leaf)
      (Expression.numberAt (ResultRow.leaf other) leaf) := by
  cases leaf with
  | aggregate column =>
    obtain ⟨planned, inside, rfl⟩ := List.mem_map.mp within.2
    rw [ResultRow.numberAt_aggregate, ResultRow.numberAt_aggregate, ResultRow.number?,
      ResultRow.number?, same.counts planned inside]
    exact .refl _
  | grouping column =>
    rw [ResultRow.numberAt_grouping, ResultRow.numberAt_grouping]
    exact (ResultRow.number?_alike (same.texts column) (dates column rfl)).getD
  | raw accessor =>
    have raw : plan.mode.isGrouped = false := within
    rw [grouped] at raw
    cases raw

/-- The calculations over both rows of a group have the same values. -/
theorem SameGroup.corresponds (closed : plan.Closed) (grouped : plan.mode.isGrouped = true)
    (apart : ∀ column ∈ plan.calculations.map (·.column),
      column ∉ plan.groupingColumns ++ plan.aggregates.map (·.column))
    (distinct : (plan.calculations.map (·.column)).Nodup) {base other row another : ResultRow}
    (same : plan.SameGroup base other)
    (extended : plan.extend ⟨base, ResultRow.leaf base⟩ = .ok row)
    (extendedOther : plan.extend ⟨other, ResultRow.leaf other⟩ = .ok another)
    (fits : row.Fits plan.columns) : plan.Corresponds row another := by
  have free {column : String}
      (inside : column ∈ plan.groupingColumns ++ plan.aggregates.map (·.column)) :
      row.get? column = base.get? column ∧ another.get? column = other.get? column := by
    have other : column ∉ plan.calculations.map (·.column) := fun member => apart _ member inside
    exact ⟨get?_of_extend extended other, get?_of_extend extendedOther other⟩
  have shown {column : String}
      (inside : column ∈ plan.groupingColumns ++ plan.aggregates.map (·.column)) :
      ∃ cell, base.get? column = some cell := by
    rw [← (free inside).1]
    rw [closed.columns] at fits
    exact fits.exists_cell (List.mem_append_left _ inside)
  constructor
  · intro column displayed
    have inside := List.mem_append_left (plan.aggregates.map (·.column)) displayed
    obtain ⟨cell, found⟩ := shown inside
    have texts := same.texts column
    rw [found] at texts
    obtain ⟨another, foundOther, text⟩ := Option.map_eq_some_iff.mp texts.symm
    exact ⟨cell, another, (free inside).1.trans found, (free inside).2.trans foundOther, text.symm⟩
  · intro planned known
    have inside : planned.column ∈ plan.groupingColumns ++ plan.aggregates.map (·.column) :=
      List.mem_append_right _ (List.mem_map_of_mem known)
    obtain ⟨cell, found⟩ := shown inside
    exact ⟨cell, cell, (free inside).1.trans found,
      (free inside).2.trans ((same.counts planned known).symm.trans found), rfl⟩
  · intro calculation planned dates
    obtain ⟨value, evaluated, cell⟩ := get?_calculation_of_extend distinct extended planned
    obtain ⟨result, evaluatedOther, cellOther⟩ :=
      get?_calculation_of_extend distinct extendedOther planned
    rw [Expression.eval_eq_interpret] at evaluated evaluatedOther
    obtain ⟨_, _, evaluated⟩ := bind_eq_ok.mp evaluated
    obtain ⟨_, _, evaluatedOther⟩ := bind_eq_ok.mp evaluatedOther
    cases evaluated
    cases evaluatedOther
    refine ⟨_, _, cell, cellOther, Cell.same_ofNumber? (Expression.value_alike ?_)⟩
    intro leaf read
    have within := closed.leaves calculation planned leaf read
    refine same.alike grouped within ?_
    rintro column rfl
    have inside := List.mem_append_left (plan.aggregates.map (·.column)) within.2
    have agree := dates column read
    rwa [(free inside).1, (free inside).2] at agree

/-- In the grouped modes the finished rows are those of the groups with the calculations. -/
theorem groups_of_materialize (closed : plan.Closed) (grouped : plan.mode.isGrouped = true)
    {finished : List ResultRow} (success : plan.materialize rows = .ok finished) :
    ∃ groups, plan.aggregate rows = .ok groups ∧ List.Forall₂ (fun group row =>
      plan.extend ⟨group, ResultRow.leaf group⟩ = .ok row) groups finished := by
  obtain ⟨bases, made, extended⟩ := bases_of_materialize closed success
  rw [Plan.bases, if_pos grouped] at made
  cases aggregated : plan.aggregate rows with
  | error error =>
    rw [aggregated] at made
    cases made
  | ok groups =>
    rw [aggregated] at made
    cases made
    exact ⟨groups, rfl, List.forall₂_map_left_iff.mp extended⟩

/-- The rows of a plan correspond to those that it makes of the same stored rows in another order. -/
theorem materialize_perm (closed : plan.Closed)
    (apart : ∀ column ∈ plan.calculations.map (·.column),
      column ∉ plan.groupingColumns ++ plan.aggregates.map (·.column))
    (distinct : (plan.calculations.map (·.column)).Nodup)
    (counts : ∀ planned ∈ plan.aggregates, planned.function = .count) (perm : rows.Perm others)
    {finished results : List ResultRow} (success : plan.materialize rows = .ok finished)
    (again : plan.materialize others = .ok results) :
    ∃ middle, middle.Perm results ∧ List.Forall₂ plan.Corresponds finished middle := by
  have fits : ∀ row ∈ finished, row.Fits plan.columns := fun _ inside => closed.fits success inside
  cases grouped : plan.mode.isGrouped with
  | false =>
    have raw : plan.mode = .raw := by
      cases mode : plan.mode with
      | raw => rfl
      | _ =>
        rw [mode] at grouped
        cases grouped
    rw [materialize, raw] at success again
    refine ⟨finished, perm_of_mapM perm success again, ?_⟩
    exact List.forall₂_same.mpr fun row inside => corresponds_refl closed (fits row inside)
  | true =>
    obtain ⟨groups, aggregated, extended⟩ := groups_of_materialize closed grouped success
    obtain ⟨more, aggregatedOther, extendedOther⟩ := groups_of_materialize closed grouped again
    obtain ⟨partners, moved, related⟩ := aggregate_perm counts perm aggregated aggregatedOther
    obtain ⟨middle, extendedPartner, same⟩ := List.perm_comp_forall₂ moved extendedOther
    refine ⟨middle, same, ?_⟩
    have partnered := forall₂_of_common related.flip extendedPartner
    have pairs := (List.forall₂_and_left finished middle).mpr
      ⟨fits, forall₂_of_common extended partnered⟩
    refine pairs.imp ?_
    rintro row another ⟨fit, group, made, partner, alike, madeOther⟩
    exact alike.corresponds closed grouped apart distinct made madeOther fit

end Plan

namespace Engine

/-- Records in another order have the same rows in another order. -/
theorem expand_perm {plan : Plan} {catalog : Catalog} {reportId : String}
    {records others : List Record} {rows more : List StoredRow} (perm : records.Perm others)
    (expanded : (expand plan catalog reportId records).result = .ok rows)
    (expandedOther : (expand plan catalog reportId others).result = .ok more) : rows.Perm more := by
  obtain ⟨lists, each, rfl⟩ := result_expand_eq_ok.mp expanded
  obtain ⟨listsOther, eachOther, rfl⟩ := result_expand_eq_ok.mp expandedOther
  exact (perm_of_mapM (perm.filter _) each eachOther).flatten

end Engine

/-- The same rows are kept, whatever their order. -/
theorem RowFilter.keep_perm {units : Char → List Char} {catalog : Catalog}
    {filters : List ReportFilter} {planned : List RowFilter}
    (made : List.Forall₂ (fun filter planned => ofFilter catalog filter = .ok planned) filters planned)
    {rows others kept more : List StoredRow} (perm : rows.Perm others)
    (success : keep units planned rows = .ok kept) (again : keep units planned others = .ok more) :
    kept.Perm more := by
  rw [keep_ok made success, keep_ok made again]
  exact perm.filter _

namespace ResultRow

/-- Rows that correspond are totals together. -/
theorem isTotal_of_corresponds {plan : Plan} {row other : ResultRow}
    (same : plan.Corresponds row other) :
    isTotal plan.groupingColumns row = isTotal plan.groupingColumns other := by
  have keys : row.keyIn plan.groupingColumns = other.keyIn plan.groupingColumns := by
    refine List.map_congr_left fun column inside => ?_
    obtain ⟨cell, another, found, foundOther, texts⟩ := same.texts column inside
    rw [found, foundOther]
    exact texts
  rw [isTotal_eq, isTotal_eq, keys]

theorem dropTotals_perm {plan : Plan} {rows middle others : List ResultRow}
    (related : List.Forall₂ plan.Corresponds rows middle) (perm : middle.Perm others) :
    ∃ left, left.Perm (dropTotals plan.groupingColumns others) ∧
      List.Forall₂ plan.Corresponds (dropTotals plan.groupingColumns rows) left := by
  unfold dropTotals
  split
  · exact ⟨middle, perm, related⟩
  · refine ⟨_, perm.filter _, List.rel_filter (fun row other same => ?_) related⟩
    simp only [isTotal_of_corresponds same]

end ResultRow

/-- Every column is that of an aggregation, with its function. -/
theorem AggregatePlan.exists_aggregation_of_column {catalog : Catalog} {settings : Settings}
    {aggregations : List Aggregation} {plan : AggregatePlan}
    (built : ofAggregations catalog settings aggregations = .ok plan) :
    ∀ planned ∈ plan.columns, ∃ aggregation ∈ aggregations,
      planned.function = aggregation.function := by
  refine foldlM_keeps (fun (taken : List Aggregation) (plan : AggregatePlan) =>
    ∀ planned ∈ plan.columns, ∃ aggregation ∈ taken,
      planned.function = aggregation.function) ?_ [] aggregations ⟨[], 0⟩ plan nofun built
  intro taken before aggregation after held added planned inside
  have earlier (known : planned ∈ before.columns) : ∃ other ∈ taken ++ [aggregation],
      planned.function = other.function := by
    obtain ⟨other, member, same⟩ := held planned known
    exact ⟨other, List.mem_append_left _ member, same⟩
  rcases add_ok added with ⟨_, rfl⟩ | ⟨_, field, accessor, _, _, _, _, rfl⟩
  · exact earlier inside
  · rcases List.mem_append.mp inside with known | last
    · exact earlier known
    · rw [List.mem_singleton.mp last]
      exact ⟨aggregation, List.mem_append_right _ (List.mem_singleton_self _), rfl⟩

/-- Whether two stores hold the same, with the records in another order. -/
structure Store.SameRecords (first second : Store) : Prop where
  forms : first.forms = second.forms
  records : first.records.Perm second.records
  reports : first.reports = second.reports

namespace Execution

variable {settings : Settings} {units : Char → List Char} {first second : Store}
  {reportId : String} {requester : Requester} {execution other : Execution}

/-- The order of the records is of no account before they are read. -/
theorem same_plan (same : first.SameRecords second)
    (of : execution.Of ⟨first.source, settings, units⟩ reportId requester)
    (ofOther : other.Of ⟨second.source, settings, units⟩ reportId requester) :
    other.report = execution.report ∧ other.catalog = execution.catalog ∧
      other.plan = execution.plan := by
  have stored := Engine.openReport_ok of.opened
  have report : other.report = execution.report := by
    refine ofOther.report_eq ?_
    change Except.ok (second.reports.get? reportId) = _
    rwa [← same.reports]
  have catalog : other.catalog = execution.catalog := by
    have listed := of.listed
    have listedOther := ofOther.listed
    have forms : (Engine.participatingForms second.source execution.report).result =
        (Engine.participatingForms first.source execution.report).result := by
      simp only [Engine.participatingForms, Store.source, Store.liveForms, Store.fieldsOf, same.forms]
    rw [report, forms] at listedOther
    exact Except.ok.inj (listedOther.symm.trans listed)
  have compiled := ofOther.compiled
  rw [report, catalog, of.compiled] at compiled
  exact ⟨report, catalog, (congrArg Prod.fst (Except.ok.inj compiled)).symm⟩

/-- The rows that a plan is carried out on are the same in another order. -/
theorem kept_perm (same : first.SameRecords second)
    (of : execution.Of ⟨first.source, settings, units⟩ reportId requester)
    (ofOther : other.Of ⟨second.source, settings, units⟩ reportId requester) :
    ∃ kept more, kept.Perm more ∧ execution.plan.materialize kept = .ok execution.finished ∧
      execution.plan.materialize more = .ok other.finished := by
  obtain ⟨_, catalog, plan⟩ := same_plan same of ofOther
  obtain ⟨rows, kept, expanded, filtered, materialized⟩ := Engine.run_ok of.carriedOut
  obtain ⟨others, more, expandedOther, filteredOther, materializedOther⟩ :=
    Engine.run_ok ofOther.carriedOut
  have queried := of.queried
  have queriedOther := ofOther.queried
  rw [plan] at expandedOther filteredOther materializedOther queriedOther
  rw [catalog] at expandedOther
  have records : execution.records.Perm other.records := by
    rw [← Except.ok.inj queried, ← Except.ok.inj queriedOther]
    exact same.records.filter _
  refine ⟨kept, more, ?_, materialized, materializedOther⟩
  obtain ⟨stages, accepted, planned⟩ := PlanRequest.compile_ok of.compiled
  rw [planned] at filtered filteredOther
  exact RowFilter.keep_perm (mapM_eq_ok.mp accepted.filters)
    (Engine.expand_perm records expanded expandedOther) filtered filteredOther

end Execution

namespace Engine

/-- The order in which records were appended decides which cells stand for the groups of a report. As
long as the aggregates count and nothing is sorted, the rows still correspond one to one: they have the
same texts in the grouping columns and the same counts, and a calculation has the same value in both
unless it reads a column in which one of them shows a date and the other does not. -/
theorem execute_perm {settings : Settings} {units : Char → List Char} {first second : Store}
    {reportId : String} {requester : Requester} {report : Report}
    {output outputOther : ReportOutput}
    (same : first.SameRecords second) (stored : first.report? reportId = some report)
    (counting : ∀ aggregation ∈ report.config.aggregations, aggregation.function = .count)
    (unsorted : report.config.sortOrders = [])
    (success : (execute ⟨first.source, settings, units⟩ reportId requester).result = .ok output)
    (successOther :
      (execute ⟨second.source, settings, units⟩ reportId requester).result = .ok outputOther) :
    ∃ execution : Execution, execution.Of ⟨first.source, settings, units⟩ reportId requester ∧
      output = execution.output units ∧ ∃ rows, rows.Perm outputOther.data ∧
        List.Forall₂ execution.plan.Corresponds output.data rows := by
  obtain ⟨execution, of, rfl⟩ := Execution.of_execute success
  obtain ⟨other, ofOther, rfl⟩ := Execution.of_execute successOther
  refine ⟨execution, of, rfl, ?_⟩
  have opened : execution.report = report := of.report_eq (congrArg Except.ok stored)
  obtain ⟨_, _, plan⟩ := Execution.same_plan same of ofOther
  obtain ⟨kept, more, perm, materialized, materializedOther⟩ := Execution.kept_perm same of ofOther
  have closed := PlanRequest.closed_of_compile of.compiled
  obtain ⟨stages, accepted, planned⟩ := PlanRequest.compile_ok of.compiled
  rw [opened] at accepted planned
  obtain ⟨fresh, distinct⟩ := accepted.fresh_calculations
  have counts : ∀ column ∈ execution.plan.aggregates, column.function = .count := by
    rw [planned]
    intro column known
    obtain ⟨aggregation, inside, function⟩ :=
      AggregatePlan.exists_aggregation_of_column accepted.aggregates column known
    rw [function]
    exact counting aggregation (List.mem_of_mem_filter inside)
  have order : execution.plan.sort = [] := by
    rw [planned]
    exact PlanStages.sort_plan unsorted
  obtain ⟨middle, moved, related⟩ := Plan.materialize_perm closed
    (planned ▸ fun column inside => (fresh column inside).2) (planned ▸ distinct) counts perm
      materialized materializedOther
  obtain ⟨left, rest, each⟩ := ResultRow.dropTotals_perm related moved
  change ∃ rows, rows.Perm (ResultRow.sort units other.plan.sort
      (ResultRow.dropTotals other.plan.groupingColumns other.finished)) ∧
    List.Forall₂ execution.plan.Corresponds (ResultRow.sort units execution.plan.sort _) rows
  rw [plan, order]
  exact ⟨left, rest, each⟩

/-- The hauls of each day, counted, with the day that comes next. -/
def dayReport : Report := ⟨"days", "Days", "head", { ReportConfig.empty with
  selectedFields := [⟨"haul", "day", ""⟩]
  aggregations := [⟨"haul", "n", "", .count⟩]
  calculations := [⟨"Next", "Day + 1"⟩] }⟩

/-- Three hauls, two of them on one day that is given as a number and as a text. -/
def dayRecords : List Record := [
  ⟨"1", "haul", "north", "ann", [.object [("day", .integer 2024), ("n", .integer 5)]], []⟩,
  ⟨"2", "haul", "north", "ann", [.object [("day", .text "2024"), ("n", .integer 7)]], []⟩,
  ⟨"3", "haul", "north", "ann", [.object [("day", .integer 2023), ("n", .integer 4)]], []⟩]

def dayStore (valueType : ValueType) (records : List Record) : Store where
  forms := [.create "haul" "Haul" [.plain "day" "Day" valueType, .plain "n" "Weight" .number]]
  records := records
  reports := [("days", dayReport)]

theorem sameRecords_dayStore (valueType : ValueType) :
    (dayStore valueType dayRecords).SameRecords (dayStore valueType dayRecords.reverse) :=
  ⟨rfl, (List.reverse_perm _).symm, rfl⟩

/-- The number and the text of a day are one group, whose next day is the same from either. -/
theorem execute_perm_days : ∃ output outputOther,
    (execute (.plain (dayStore .text dayRecords).source) "days" ⟨"ann", "admin", none⟩).result =
      .ok output ∧
    (execute (.plain (dayStore .text dayRecords.reverse).source) "days"
      ⟨"ann", "admin", none⟩).result = .ok outputOther ∧
    output.data = [
      [("Day", .number 2024), ("Weight_count", .number 2), ("Next", .number 2025)],
      [("Day", .number 2023), ("Weight_count", .number 1), ("Next", .number 2024)]] ∧
    outputOther.data = [
      [("Day", .number 2023), ("Weight_count", .number 1), ("Next", .number 2024)],
      [("Day", .text "2024"), ("Weight_count", .number 2), ("Next", .number 2025)]] ∧
    ∃ execution : Execution, output = execution.output Text.lowerUnits ∧
      ∃ rows, rows.Perm outputOther.data ∧
        List.Forall₂ execution.plan.Corresponds output.data rows := by
  obtain ⟨output, success, data⟩ := map_eq_ok.mp (show (execute
      (.plain (dayStore .text dayRecords).source) "days" ⟨"ann", "admin", none⟩).result.map
      (·.data) = .ok [
        [("Day", .number 2024), ("Weight_count", .number 2), ("Next", .number 2025)],
        [("Day", .number 2023), ("Weight_count", .number 1), ("Next", .number 2024)]] by
    decide +kernel)
  obtain ⟨outputOther, successOther, dataOther⟩ := map_eq_ok.mp (show (execute
      (.plain (dayStore .text dayRecords.reverse).source) "days" ⟨"ann", "admin", none⟩).result.map
      (·.data) = .ok [
        [("Day", .number 2023), ("Weight_count", .number 1), ("Next", .number 2024)],
        [("Day", .text "2024"), ("Weight_count", .number 2), ("Next", .number 2025)]] by
    decide +kernel)
  have stored : (dayStore .text dayRecords).report? "days" = some dayReport := rfl
  obtain ⟨execution, _, same, rows⟩ := execute_perm (sameRecords_dayStore .text) stored (by decide)
    rfl success successOther
  exact ⟨output, outputOther, success, successOther, data, dataOther, execution, same, rows⟩

/-- Where the days are dates, the day that is given as a text is no number. Which of the two stands for
their group then decides the next day, and no way to pair the rows keeps it. -/
theorem not_calculations_of_perm :
    (dayStore .date dayRecords).SameRecords (dayStore .date dayRecords.reverse) ∧
    (dayStore .date dayRecords).report? "days" = some dayReport ∧
    (∀ aggregation ∈ dayReport.config.aggregations, aggregation.function = .count) ∧
    dayReport.config.sortOrders = [] ∧
    ∃ output outputOther,
      (execute (.plain (dayStore .date dayRecords).source) "days" ⟨"ann", "admin", none⟩).result =
        .ok output ∧
      (execute (.plain (dayStore .date dayRecords.reverse).source) "days"
        ⟨"ann", "admin", none⟩).result = .ok outputOther ∧
      ¬ ∃ rows, rows.Perm outputOther.data ∧ List.Forall₂ (fun row other =>
        row.Match (fun cell another => cell.groupKey = another.groupKey) other "Day" ∧
        row.Match Eq other "Weight_count" ∧ row.Match Cell.Same other "Next") output.data rows := by
  obtain ⟨output, success, data⟩ := map_eq_ok.mp (show (execute
      (.plain (dayStore .date dayRecords).source) "days" ⟨"ann", "admin", none⟩).result.map
      (·.data) = .ok [
        [("Day", .number 2024), ("Weight_count", .number 2), ("Next", .number 2025)],
        [("Day", .number 2023), ("Weight_count", .number 1), ("Next", .number 2024)]] by
    decide +kernel)
  obtain ⟨outputOther, successOther, dataOther⟩ := map_eq_ok.mp (show (execute
      (.plain (dayStore .date dayRecords.reverse).source) "days" ⟨"ann", "admin", none⟩).result.map
      (·.data) = .ok [
        [("Day", .number 2023), ("Weight_count", .number 1), ("Next", .number 2024)],
        [("Day", .date "2024"), ("Weight_count", .number 2), ("Next", .number 1)]] by
    decide +kernel)
  refine ⟨sameRecords_dayStore .date, rfl, by decide, rfl, output, outputOther, success,
    successOther, ?_⟩
  rintro ⟨rows, perm, each⟩
  rw [data] at each
  rw [dataOther] at perm
  -- The row whose next day is 2025 has no partner.
  have first : Keyed.get? (α := Cell) [("Day", .number 2024), ("Weight_count", .number 2),
      ("Next", .number 2025)] "Next" = some (.number 2025) := by
    decide +kernel
  have none : ∀ other ∈ [
      [("Day", .number 2023), ("Weight_count", .number 1), ("Next", .number 2024)],
      [("Day", .date "2024"), ("Weight_count", .number 2), ("Next", .number 1)]],
      Keyed.get? (α := Cell) other "Next" ≠ some (.number 2025) := by
    decide +kernel
  cases each with
  | cons paired _ =>
    obtain ⟨-, -, cell, another, found, foundOther, alike⟩ := paired
    rw [first] at found
    cases found
    rw [alike.eq_of_ne_zero (by decide +kernel)] at foundOther
    exact none _ (perm.mem_iff.mp List.mem_cons_self) foundOther

end Engine

end FormReport
