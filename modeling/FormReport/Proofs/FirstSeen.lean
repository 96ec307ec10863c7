import FormReport.Proofs.Prefilter
import FormReport.Proofs.Spelling

set_option autoImplicit false

/- Groups are first rows. In its grouping columns a grouped report shows what it shows without its
aggregations, less the rows whose texts have been seen before. -/
namespace FormReport

section

variable {α β κ : Type} [BEq κ]

/-- The members of a list whose key no earlier member has. -/
def firstSeen (key : α → κ) (values : List α) : List α :=
  values.eraseDupsBy fun value earlier => key value == key earlier

variable (key : α → κ)

theorem firstSeen_cons (value : α) (rest : List α) :
    firstSeen key (value :: rest) =
      value :: firstSeen key (rest.filter fun other => key other != key value) := by
  rw [firstSeen, List.eraseDupsBy_cons]
  simp [firstSeen, bne]

theorem firstSeen_map (change : β → α) (values : List β) :
    firstSeen key (values.map change) =
      (firstSeen (fun value => key (change value)) values).map change := by
  induction size : values.length using Nat.strongRecOn generalizing values with
  | ind length ih =>
    cases values with
    | nil => rfl
    | cons head rest =>
      have shorter := List.length_filter_le (fun other => key (change other) != key (change head)) rest
      simp only [List.length_cons] at size
      rw [List.map_cons, firstSeen_cons, firstSeen_cons, List.map_cons, List.filter_map,
        Function.comp_def, ih _ (by omega) _ rfl]

theorem firstSeen_sublist (values : List α) : (firstSeen key values).Sublist values := by
  induction size : values.length using Nat.strongRecOn generalizing values with
  | ind length ih =>
    cases values with
    | nil => exact .slnil
    | cons head rest =>
      have shorter := List.length_filter_le (fun other => key other != key head) rest
      simp only [List.length_cons] at size
      rw [firstSeen_cons]
      exact ((ih _ (by omega) _ rfl).trans List.filter_sublist).cons_cons head

theorem firstSeen_congr {other : α → κ} {values : List α}
    (same : ∀ value ∈ values, key value = other value) :
    firstSeen key values = firstSeen other values := by
  induction size : values.length using Nat.strongRecOn generalizing values with
  | ind length ih =>
    cases values with
    | nil => rfl
    | cons head rest =>
      have shorter := List.length_filter_le (fun value => other value != other head) rest
      simp only [List.length_cons] at size
      obtain ⟨first, others⟩ := List.forall_mem_cons.mp same
      have left : rest.filter (fun value => key value != key head) =
          rest.filter fun value => other value != other head :=
        List.filter_congr fun value inside => by rw [first, others value inside]
      rw [firstSeen_cons, firstSeen_cons, left,
        ih _ (by omega) (fun value inside => others value (List.mem_of_mem_filter inside)) rfl]

variable [LawfulBEq κ]

/-- A member counts only where its key is first seen. -/
theorem firstSeen_concat (values : List α) (value : α) :
    firstSeen key (values ++ [value]) =
      if key value ∈ values.map key then firstSeen key values
      else firstSeen key values ++ [value] := by
  induction size : values.length using Nat.strongRecOn generalizing values with
  | ind length ih =>
    cases values with
    | nil => simp [firstSeen, List.eraseDupsBy_cons]
    | cons head rest =>
      have shorter := List.length_filter_le (fun other => key other != key head) rest
      simp only [List.length_cons] at size
      rw [List.cons_append, firstSeen_cons, firstSeen_cons, List.filter_append]
      by_cases own : key value = key head
      · simp [own]
      · have last : [value].filter (fun other => key other != key head) = [value] := by simp [own]
        have seen : key value ∈ (rest.filter fun other => key other != key head).map key ↔
            key value ∈ (head :: rest).map key := by
          simp only [List.mem_map, List.mem_filter, List.mem_cons, bne_iff_ne]
          constructor
          · rintro ⟨other, ⟨inside, _⟩, same⟩
            exact ⟨other, .inr inside, same⟩
          · rintro ⟨other, rfl | inside, same⟩
            · exact absurd same.symm own
            · exact ⟨other, ⟨inside, same ▸ own⟩, same⟩
        rw [last, ih _ (by omega) _ rfl]
        simp only [seen]
        split <;> rfl

theorem mem_map_firstSeen {values : List α} {name : κ} :
    name ∈ (firstSeen key values).map key ↔ name ∈ values.map key := by
  rw [← firstSeen_map (fun name => name) key values]
  exact List.mem_eraseDups

/-- Members that are left out for their key are left out with all that have the key. -/
theorem firstSeen_filter (kept : κ → Bool) (values : List α) :
    firstSeen key (values.filter fun value => kept (key value)) =
      (firstSeen key values).filter fun value => kept (key value) := by
  induction size : values.length using Nat.strongRecOn generalizing values with
  | ind length ih =>
    cases values with
    | nil => rfl
    | cons head rest =>
      have shorter := List.length_filter_le (fun other => key other != key head) rest
      simp only [List.length_cons] at size
      rw [firstSeen_cons, List.filter_cons, List.filter_cons, ← ih _ (by omega) _ rfl]
      split
      · rw [firstSeen_cons, List.filter_filter, List.filter_filter]
        simp only [Bool.and_comm]
      · rename_i out
        rw [List.filter_filter]
        congr 1
        apply List.filter_congr
        intro other _
        cases verdict : kept (key other) with
        | false => rfl
        | true =>
          have apart : key other ≠ key head := by
            intro same
            rw [same] at verdict
            exact out verdict
          simp [apart]

end

namespace ResultRow

/-- The part of a row in some columns. -/
def restrict (columns : List String) (row : ResultRow) : ResultRow :=
  row.filter fun entry => columns.contains entry.1

/-- The texts of a row in some columns, by which it is told from others. -/
def keyIn (columns : List String) (row : ResultRow) : List (Option String) :=
  columns.map fun column => (row.get? column).bind Cell.groupKey

theorem get?_restrict (row : ResultRow) {columns : List String} {column : String}
    (inside : column ∈ columns) : (row.restrict columns).get? column = row.get? column := by
  induction row with
  | nil => rfl
  | cons entry rest ih =>
    obtain ⟨name, cell⟩ := entry
    unfold restrict at ih ⊢
    rw [List.filter_cons, Keyed.get?_cons, ← ih]
    split
    · exact Keyed.get?_cons ..
    · rename_i out
      have apart : column ≠ name := fun same => out (List.contains_iff_mem.mpr (same ▸ inside))
      rw [if_neg apart]

theorem keyIn_restrict (columns : List String) (row : ResultRow) :
    (row.restrict columns).keyIn columns = row.keyIn columns := by
  apply List.map_congr_left
  intro column inside
  rw [get?_restrict row inside]

/-- Whether a row is one of totals is told by its texts. -/
theorem isTotal_eq (columns : List String) (row : ResultRow) :
    isTotal columns row = (row.keyIn columns).all fun text? =>
      text?.all fun text => text.isEmpty || text = "0" := by
  rw [isTotal, keyIn, List.all_map]
  congr 1
  funext column
  cases found : row.get? column with
  | none => simp [found]
  | some cell => simp [found, Cell.isTotalPlaceholder_eq]

/-- Texts under distinct names. -/
theorem keyIn_zip {columns : List String} (distinct : columns.Nodup) {cells : List Cell}
    (width : columns.length = cells.length) :
    keyIn columns (columns.zip cells) = cells.map Cell.groupKey := by
  have known : (Keyed.keys (columns.zip cells)).Nodup := by
    rwa [Keyed.keys, List.map_fst_zip width.le]
  have each : List.Forall₂ (fun column cell => Keyed.get? (columns.zip cells) column = some cell)
      columns cells :=
    List.forall₂_iff_zip.mpr ⟨width, fun inside => Keyed.get?_of_mem known inside⟩
  refine map_eq_of_forall₂ each fun column cell found => ?_
  rw [found, Option.bind_some]

theorem restrict_set {columns : List String} {name : String} (other : name ∉ columns)
    (row : ResultRow) (cell : Cell) : restrict columns (row.set name cell) = restrict columns row := by
  induction row with
  | nil => simp [Keyed.set, restrict, other]
  | cons entry rest ih =>
    obtain ⟨first, old⟩ := entry
    rw [Keyed.set]
    split
    · rename_i same
      simp [restrict, same, other]
    · simp only [restrict, List.filter_cons] at ih ⊢
      rw [ih]

/-- What is set under other names is not seen in some columns. -/
theorem restrict_foldl_set {columns : List String} {values : List (String × Cell)}
    (apart : ∀ name ∈ values.map Prod.fst, name ∉ columns) (row : ResultRow) :
    restrict columns (values.foldl (fun row value => row.set value.1 value.2) row) =
      restrict columns row := by
  induction values generalizing row with
  | nil => rfl
  | cons value rest ih =>
    obtain ⟨first, others⟩ := List.forall_mem_cons.mp apart
    rw [List.foldl_cons, ih others, restrict_set first]

theorem restrict_of_subset {columns : List String} {row : ResultRow}
    (inside : ∀ name ∈ row.keys, name ∈ columns) : row.restrict columns = row := by
  rw [restrict, List.filter_eq_self]
  intro entry member
  exact List.contains_iff_mem.mpr (inside _ (List.mem_map_of_mem member))

end ResultRow

namespace Plan

variable {plan : Plan} {rows : List StoredRow}

theorem Group.cells_add (cells : List Cell) (inputs : List (Option Cell)) (groups : List Group) :
    (Group.add plan cells inputs groups).map (·.cells) =
      if cells.map Cell.groupKey ∈ groups.map (·.key) then groups.map (·.cells)
      else groups.map (·.cells) ++ [cells] := by
  induction groups with
  | nil => rfl
  | cons group rest ih =>
    by_cases same : group.key = cells.map Cell.groupKey
    · simp [Group.add, same, Group.push]
    · have apart : ¬ cells.map Cell.groupKey = group.key := fun equal => same equal.symm
      simp only [Group.add, same, ↓reduceIte, List.map_cons, ih, List.mem_cons, apart, false_or]
      split <;> rfl

/-- The groups show the cells of the rows, each only where its texts are first seen. -/
theorem cells_of_groups {groups : List Group} (some : plan.grouping.isEmpty = false)
    (collected : rows.foldlM plan.group plan.initialGroups = .ok groups) :
    ∃ lists, rows.mapM plan.groupingCells = .ok lists ∧
      groups.map (·.cells) = firstSeen (fun cells => cells.map Cell.groupKey) lists := by
  let Holds (rows : List StoredRow) (groups : List Group) : Prop :=
    ∃ lists, rows.mapM plan.groupingCells = .ok lists ∧
      groups.map (·.cells) = firstSeen (fun cells => cells.map Cell.groupKey) lists ∧
        groups.map (·.key) = (groups.map (·.cells)).map fun cells => cells.map Cell.groupKey
  have initial : Holds [] plan.initialGroups := by
    rw [initialGroups, some]
    exact ⟨[], rfl, rfl, rfl⟩
  have kept : Holds ([] ++ rows) groups := by
    refine foldlM_keeps Holds ?_ [] rows plan.initialGroups groups initial collected
    rintro taken before row after ⟨lists, read, shown, keys⟩ stepped
    obtain ⟨cells, own, rest⟩ := bind_eq_ok.mp stepped
    obtain ⟨inputs, _, same⟩ := bind_eq_ok.mp rest
    cases same
    have seen : cells.map Cell.groupKey ∈ before.map (·.key) ↔
        cells.map Cell.groupKey ∈ lists.map fun cells => cells.map Cell.groupKey := by
      rw [keys, shown, mem_map_firstSeen]
    refine ⟨lists ++ [cells], ?_, ?_, ?_⟩
    · rw [mapM_eq_ok] at read ⊢
      exact List.rel_append read (.cons own .nil)
    · rw [Group.cells_add, firstSeen_concat, ← shown]
      simp only [seen]
    · rw [Group.keys_add, Group.cells_add, keys]
      split
      · rfl
      · rw [List.map_append]
        rfl
  obtain ⟨lists, read, shown, _⟩ := kept
  exact ⟨lists, read, shown⟩

theorem length_groupingCells {row : StoredRow} {cells : List Cell}
    (read : plan.groupingCells row = .ok cells) : plan.groupingColumns.length = cells.length := by
  rw [groupingColumns, List.length_map]
  exact (mapM_eq_ok.mp read).length_eq

/-- In the grouping columns a finished row has the cells of its group. -/
theorem restrict_groupRow (distinct : plan.groupingColumns.Nodup)
    (apart : ∀ planned ∈ plan.aggregates, planned.column ∉ plan.groupingColumns) {group : Group}
    {row : ResultRow} (width : plan.groupingColumns.length = group.cells.length)
    (made : plan.groupRow group = .ok row) :
    row.restrict plan.groupingColumns = plan.groupingColumns.zip group.cells := by
  obtain ⟨values, each, same⟩ := bind_eq_ok.mp made
  cases same
  have names : (plan.groupingColumns.zip group.cells).map Prod.fst = plan.groupingColumns :=
    List.map_fst_zip width.le
  have others : ∀ name ∈ values.map Prod.fst, name ∉ plan.groupingColumns := by
    rintro _ inside
    obtain ⟨value, member, rfl⟩ := List.mem_map.mp inside
    obtain ⟨⟨planned, state⟩, paired, made⟩ := exists_of_mem_mapM each member
    rw [aggregateCell_eq_ok made]
    exact apart planned (List.of_mem_zip paired).1
  rw [Keyed.ofList, List.foldl_append, ResultRow.restrict_foldl_set others, ← Keyed.ofList,
    Keyed.ofList_of_nodup _ (names.symm ▸ distinct)]
  exact ResultRow.restrict_of_subset fun name inside => names ▸ inside

/-- A stored row without calculations has its own cells. -/
theorem project_of_groupingCells (plain : plan.calculations = [])
    (distinct : plan.groupingColumns.Nodup) {row : StoredRow} {cells : List Cell}
    (read : plan.groupingCells row = .ok cells) :
    plan.project row = .ok (plan.groupingColumns.zip cells) := by
  have names : ((plan.groupingColumns.zip cells).map Prod.fst).Nodup := by
    rwa [List.map_fst_zip (length_groupingCells read).le]
  have each : plan.grouping.mapM (fun key => do
      let cell ← row.read key.accessor
      Except.ok (key.column, cell)) = .ok (plan.groupingColumns.zip cells) := by
    have known := mapM_eq_ok.mp read
    rw [mapM_eq_ok, groupingColumns]
    clear read names
    generalize plan.grouping = keys at known ⊢
    induction known with
    | nil => exact .nil
    | cons head _ ih => exact .cons (bind_eq_ok.mpr ⟨_, head, rfl⟩) ih
  have none : plan.calculated row.leaf = .ok [] := by
    rw [calculated, plain]
    rfl
  unfold project
  rw [each, none]
  change Except.ok (Keyed.ofList (plan.groupingColumns.zip cells ++ [])) = _
  rw [List.append_nil, Keyed.ofList_of_nodup _ names]

/-- Without its aggregates a plan shows the rows whose first ones the groups show. -/
theorem materialize_firstSeen (raw : Plan) (aggregate : plan.mode = .aggregate)
    (alone : raw.mode = .raw) (grouping : raw.grouping = plan.grouping)
    (plain : raw.calculations = []) (some : plan.grouping.isEmpty = false)
    (distinct : plan.groupingColumns.Nodup)
    (apart : ∀ planned ∈ plan.aggregates, planned.column ∉ plan.groupingColumns)
    {finished : List ResultRow} (success : plan.materialize rows = .ok finished) :
    ∃ shown, raw.materialize rows = .ok shown ∧
      finished.map (ResultRow.restrict plan.groupingColumns) =
        firstSeen (ResultRow.keyIn plan.groupingColumns) shown := by
  have columns : raw.groupingColumns = plan.groupingColumns := by
    rw [groupingColumns, groupingColumns, grouping]
  rw [materialize, aggregate] at success
  obtain ⟨groups, collected, each⟩ := bind_eq_ok.mp success
  obtain ⟨lists, read, cells⟩ := cells_of_groups some collected
  have width : ∀ list ∈ lists, plan.groupingColumns.length = list.length := by
    intro list inside
    obtain ⟨row, _, own⟩ := exists_of_mem_mapM read inside
    exact length_groupingCells own
  refine ⟨lists.map plan.groupingColumns.zip, ?_, ?_⟩
  · rw [materialize, alone]
    refine mapM_eq_ok.mpr (List.forall₂_map_right_iff.mpr ((mapM_eq_ok.mp read).imp ?_))
    intro row list own
    rw [← columns]
    refine project_of_groupingCells plain (columns ▸ distinct) ?_
    rwa [groupingCells, grouping]
  · have keys : firstSeen (fun list => ResultRow.keyIn plan.groupingColumns
        (plan.groupingColumns.zip list)) lists =
          firstSeen (fun list => list.map Cell.groupKey) lists :=
      firstSeen_congr _ fun list inside => ResultRow.keyIn_zip distinct (width list inside)
    rw [firstSeen_map, keys, ← cells, List.map_map]
    have all := (List.forall₂_and_left groups finished).mpr
      ⟨fun group inside => inside, mapM_eq_ok.mp each⟩
    symm
    refine map_eq_of_forall₂ all ?_
    rintro group row ⟨inside, made⟩
    have member : group.cells ∈ lists :=
      (firstSeen_sublist _ lists).subset (cells ▸ List.mem_map_of_mem inside)
    exact (restrict_groupRow distinct apart (width _ member) made).symm

end Plan

/-- A report that asks for the same without aggregations. -/
def Report.withoutAggregations (report : Report) : Report :=
  { report with config := { report.config with aggregations := [] } }

/-- A backend with the same forms and records, whose reports have no aggregations. -/
def Source.withoutAggregations (source : Source) : Source :=
  { source with
    report? := fun reportId => (source.report? reportId).map fun found =>
      found.map Report.withoutAggregations }

/-- Whether a report does nothing but group what it selects: some form that it selects from is active
and some form that it aggregates over; a field is selected or aggregated but not both, and
aggregations bring no forms of their own. -/
structure ReportConfig.IsGrouping (config : ReportConfig) (active : List Form) : Prop where
  plain : config.calculations = []
  unsorted : config.sortOrders = []
  selects : ∃ field ∈ config.selectedFields, ∃ form ∈ active, form.id = field.formId
  aggregates : ∃ aggregation ∈ config.aggregations, ∃ form ∈ active, form.id = aggregation.formId
  apart : ∀ aggregation ∈ config.aggregations, ∀ field ∈ config.selectedFields,
    aggregation.fieldId ≠ field.fieldId
  named : ∀ aggregation ∈ config.aggregations,
    aggregation.formId ∈ config.selectedForms ++ config.selectedFields.map (·.formId)

namespace Engine

variable {report : Report} {active : List Form}

theorem namedForms_withoutAggregations (grouping : report.config.IsGrouping active) :
    namedForms report.withoutAggregations.config = namedForms report.config := by
  have covered : (report.config.aggregations.map (·.formId)).removeAll
      (report.config.selectedForms ++ report.config.selectedFields.map (·.formId)) = [] := by
    rw [List.removeAll, List.filter_eq_nil_iff]
    intro formId inside
    obtain ⟨aggregation, asked, rfl⟩ := List.mem_map.mp inside
    rw [List.elem_eq_mem, decide_eq_true (grouping.named aggregation asked)]
    decide
  unfold namedForms
  conv_rhs => rw [List.eraseDups_append, covered, List.eraseDups_nil, List.append_nil]
  simp only [Report.withoutAggregations, List.map_nil, List.append_nil]

/-- An active form that a report names is in the catalog. -/
theorem inScope_of_named {source : Source} {catalog : Catalog}
    (listed : (participatingForms source report).result = .ok catalog)
    (asked : source.activeForms = .ok active) {formId : String}
    (named : formId ∈ namedForms report.config) (alive : ∃ form ∈ active, form.id = formId) :
    catalog.any (·.formId = formId) = true := by
  obtain ⟨found, answered, forms⟩ := participatingForms_ok listed
  rw [asked] at answered
  cases answered
  have inside : formId ∈ liveForms report.config active := by
    refine List.mem_filter.mpr ⟨named, ?_⟩
    simpa using alive
  rw [← forms] at inside
  simpa using inside

end Engine

/-- The stages of a plan without its aggregates. -/
def PlanStages.withoutAggregates (stages : PlanStages) : PlanStages :=
  { stages with aggregates := ⟨[], 0⟩ }

section

variable {settings : Settings} {report : Report} {catalog : Catalog} {site : Option String}
  {active : List Form} {stages : PlanStages}

/-- All that is selected is grouped by. -/
theorem groupingFields_of_isGrouping (grouping : report.config.IsGrouping active) :
    groupingFields (PlanRequest.selected ⟨report.config, catalog, site⟩)
      (PlanRequest.aggregations ⟨report.config, catalog, site⟩) =
        PlanRequest.selected ⟨report.config, catalog, site⟩ := by
  refine List.filter_eq_self.mpr fun field inside => ?_
  simp only [Bool.not_eq_true', List.any_eq_false, decide_eq_true_eq]
  intro aggregation member
  exact grouping.apart aggregation (List.mem_of_mem_filter member) field
    (List.mem_of_mem_filter inside)

namespace PlanStages.Accepted

variable (accepted : stages.Accepted settings ⟨report.config, catalog, site⟩)
include accepted

theorem calculations_eq_nil (grouping : report.config.IsGrouping active) :
    stages.calculations = [] := by
  have calculated := accepted.calculations
  rw [grouping.plain] at calculated
  exact (Except.ok.inj calculated).symm

theorem grouping_ne_nil (grouping : report.config.IsGrouping active) {field : SelectedField}
    (inside : field ∈ PlanRequest.selected ⟨report.config, catalog, site⟩) :
    stages.grouping ≠ [] := by
  intro none
  have shown := GroupingKey.columns_ofFields accepted.grouping
  rw [groupingFields_of_isGrouping grouping, none] at shown
  have member : field.column catalog ∈ ((PlanRequest.selected ⟨report.config, catalog, site⟩).map
      (·.column catalog)).eraseDups := List.mem_eraseDups.mpr (List.mem_map_of_mem inside)
  rw [← shown] at member
  cases member

theorem columns_withoutAggregates (grouping : report.config.IsGrouping active) :
    stages.withoutAggregates.columns = stages.grouping.map (·.column) := by
  simp [columns, taken, withoutAggregates, accepted.calculations_eq_nil grouping]

/-- What is left of a report that only groups is accepted as well. -/
theorem withoutAggregates (grouping : report.config.IsGrouping active) {field : SelectedField}
    (inside : field ∈ PlanRequest.selected ⟨report.config, catalog, site⟩) :
    stages.withoutAggregates.Accepted settings
      ⟨report.withoutAggregations.config, catalog, site⟩ where
  asked := by
    simp [PlanRequest.isEmpty, Report.withoutAggregations,
      List.ne_nil_of_mem (List.mem_of_mem_filter inside)]
  selected := accepted.selected
  aggregates := rfl
  grouping := by
    have grouped := accepted.grouping
    rw [groupingFields_of_isGrouping grouping] at grouped
    exact (congrArg _ (List.filter_eq_self.mpr fun _ _ => rfl)).trans grouped
  calculations := by
    change (CalculationScope.columns _ _ _ report.config.calculations).result =
      .ok stages.calculations
    rw [grouping.plain, accepted.calculations_eq_nil grouping]
    rfl
  filters := accepted.filters
  shown := by
    rw [accepted.columns_withoutAggregates grouping]
    simpa using accepted.grouping_ne_nil grouping inside

theorem plan_withoutAggregates (grouping : report.config.IsGrouping active) :
    stages.withoutAggregates.plan ⟨report.withoutAggregations.config, catalog, site⟩ =
      { stages.plan ⟨report.config, catalog, site⟩ with
        mode := .raw, aggregates := [], columns := stages.grouping.map (·.column) } := by
  have order : (stages.withoutAggregates.plan
      ⟨report.withoutAggregations.config, catalog, site⟩).sort =
        (stages.plan ⟨report.config, catalog, site⟩).sort := by
    rw [PlanStages.sort_plan grouping.unsorted, PlanStages.sort_plan grouping.unsorted]
  exact Plan.mk.injEq .. ▸ ⟨rfl, rfl, rfl, rfl, rfl, rfl, rfl, order,
    accepted.columns_withoutAggregates grouping⟩

/-- A report that only groups is planned in the mode that groups. -/
theorem mode_eq_aggregate (grouping : report.config.IsGrouping active) {aggregation : Aggregation}
    (inside : aggregation ∈ PlanRequest.aggregations ⟨report.config, catalog, site⟩) :
    stages.mode ⟨report.config, catalog, site⟩ = .aggregate := by
  obtain ⟨planned, known, _⟩ :=
    AggregatePlan.exists_column_of_aggregation accepted.aggregates aggregation inside
  change Mode.select (!stages.aggregates.columns.isEmpty) (!report.config.calculations.isEmpty) = _
  rw [List.isEmpty_eq_false_iff.mpr (List.ne_nil_of_mem known), grouping.plain]
  rfl

end PlanStages.Accepted

/-- Without its aggregations a report that only groups has the plan without the aggregates. -/
theorem PlanRequest.compile_withoutAggregations {plan : Plan} {summary : PlanSummary}
    (grouping : report.config.IsGrouping active)
    (selects : ∃ field, field ∈ PlanRequest.selected ⟨report.config, catalog, site⟩)
    (aggregates : ∃ aggregation, aggregation ∈
      PlanRequest.aggregations ⟨report.config, catalog, site⟩)
    (compiled : (PlanRequest.compile settings ⟨report.config, catalog, site⟩).result =
      .ok (plan, summary)) :
    plan.mode = .aggregate ∧ plan.calculations = [] ∧ plan.sort = [] ∧
      plan.grouping.isEmpty = false ∧ plan.groupingColumns.Nodup ∧
      ∃ summary, (PlanRequest.compile settings
        ⟨report.withoutAggregations.config, catalog, site⟩).result =
          .ok ({ plan with mode := .raw, aggregates := [], columns := plan.groupingColumns },
            summary) := by
  obtain ⟨stages, accepted, rfl⟩ := PlanRequest.compile_ok compiled
  obtain ⟨field, selected⟩ := selects
  obtain ⟨aggregation, asked⟩ := aggregates
  refine ⟨accepted.mode_eq_aggregate grouping asked, accepted.calculations_eq_nil grouping,
    PlanStages.sort_plan grouping.unsorted,
    List.isEmpty_eq_false_iff.mpr (accepted.grouping_ne_nil grouping selected),
    accepted.nodup_groupingColumns, ?_⟩
  have recompiled := PlanRequest.compile_of_accepted (accepted.withoutAggregates grouping selected)
  rw [accepted.plan_withoutAggregates grouping] at recompiled
  exact ⟨_, recompiled⟩

end

namespace ResultRow

/-- Totals are dropped alike from the rows and from those that are first seen. -/
theorem dropTotals_firstSeen {columns : List String} {rows shown : List ResultRow}
    (same : rows.map (restrict columns) = firstSeen (keyIn columns) shown) :
    (dropTotals columns rows).map (restrict columns) =
      firstSeen (keyIn columns) (dropTotals columns shown) := by
  unfold dropTotals
  split
  · exact same
  · let kept (texts : List (Option String)) : Bool :=
      !texts.all fun text? => text?.all fun text => text.isEmpty || text = "0"
    have verdict : (fun row => !isTotal columns row) = fun row => kept (keyIn columns row) := by
      funext row
      rw [isTotal_eq]
    rw [verdict, firstSeen_filter, ← same, List.filter_map, Function.comp_def]
    simp only [keyIn_restrict]

end ResultRow

/-- Where no two columns have one name, no aggregate has that of a grouping column. -/
theorem Execution.Of.apart {context : Engine.Context} {reportId : String} {requester : Requester}
    {execution : Execution} (of : execution.Of context reportId requester)
    (distinct : (execution.output context.units).columns.Nodup) :
    ∀ planned ∈ execution.plan.aggregates, planned.column ∉ execution.plan.groupingColumns := by
  obtain ⟨stages, accepted, same⟩ := PlanRequest.compile_ok of.compiled
  change execution.plan.columns.Nodup at distinct
  rw [same] at distinct ⊢
  intro planned known displayed
  exact accepted.nodup_columns_iff.mp distinct _ displayed (List.mem_map_of_mem known)

namespace Engine

/-- A grouped report without calculations and sort orders is, in its grouping columns, the report
without aggregations, less the later rows of texts that have been seen: the same rows in the same
order, and these can be made whenever those can. -/
theorem execute_withoutAggregations {settings : Settings} {units : Char → List Char} {source : Source}
    {reportId : String} {requester : Requester} {report : Report} {active : List Form} {output : ReportOutput}
    (stored : source.report? reportId = .ok (some report)) (asked : source.activeForms = .ok active)
    (grouping : report.config.IsGrouping active)
    (success : (execute ⟨source, settings, units⟩ reportId requester).result = .ok output) :
    ∃ execution : Execution, execution.Of ⟨source, settings, units⟩ reportId requester ∧
      output = execution.output units ∧
      ((∀ planned ∈ execution.plan.aggregates,
          planned.column ∉ execution.plan.groupingColumns) →
        ∃ raw : Execution, raw.Of ⟨source.withoutAggregations, settings, units⟩ reportId requester ∧
          (execute ⟨source.withoutAggregations, settings, units⟩ reportId requester).result =
            .ok (raw.output units) ∧
          raw.plan.mode = .raw ∧ (raw.output units).columns = execution.plan.groupingColumns ∧
          output.data.map (ResultRow.restrict execution.plan.groupingColumns) =
            firstSeen (ResultRow.keyIn execution.plan.groupingColumns) (raw.output units).data) := by
  obtain ⟨execution, of, rfl⟩ := Execution.of_execute success
  refine ⟨execution, of, rfl, fun apart => ?_⟩
  have opened : execution.report = report := of.report_eq stored
  have listed := of.listed
  have compiled := of.compiled
  rw [opened] at listed compiled
  -- The forms that are selected from and aggregated over are in the catalog.
  obtain ⟨field, chosen, form, inside, same⟩ := grouping.selects
  obtain ⟨aggregation, wanted, another, member, own⟩ := grouping.aggregates
  have selects : field ∈ PlanRequest.selected
      ⟨report.config, execution.catalog, requester.siteId⟩ := by
    refine List.mem_filter.mpr ⟨chosen, inScope_of_named listed asked ?_ ⟨form, inside, same⟩⟩
    exact List.mem_eraseDups.mpr (List.mem_append_left _ (List.mem_append_right _
      (List.mem_map_of_mem chosen)))
  have aggregates : aggregation ∈ PlanRequest.aggregations
      ⟨report.config, execution.catalog, requester.siteId⟩ := by
    refine List.mem_filter.mpr ⟨wanted, inScope_of_named listed asked ?_ ⟨another, member, own⟩⟩
    exact List.mem_eraseDups.mpr (List.mem_append_right _ (List.mem_map_of_mem wanted))
  obtain ⟨mode, plain, unsorted, some, distinct, summary, recompiled⟩ :=
    PlanRequest.compile_withoutAggregations grouping ⟨field, selects⟩ ⟨aggregation, aggregates⟩
      compiled
  obtain ⟨rows, kept, expanded, filtered, materialized⟩ := run_ok of.carriedOut
  let alone : Plan := { execution.plan with
    mode := .raw, aggregates := [], columns := execution.plan.groupingColumns }
  obtain ⟨shown, made, firsts⟩ := Plan.materialize_firstSeen alone mode rfl rfl plain some
    distinct apart materialized
  let raw : Execution := {
    report := report.withoutAggregations
    catalog := execution.catalog
    plan := alone
    summary := summary
    records := execution.records
    finished := shown }
  have rawOf : raw.Of ⟨source.withoutAggregations, settings, units⟩ reportId requester := {
    opened := by
      have changed :
          (openReport ⟨source.withoutAggregations, settings, units⟩ reportId requester).result =
            .ok execution.report.withoutAggregations := openReport_map of.opened _ rfl fun _ => rfl
      rwa [opened] at changed
    listed := (result_participatingForms ⟨rfl, rfl, rfl⟩
      (namedForms_withoutAggregations grouping)).trans listed
    compiled := recompiled
    queried := of.queried
    carriedOut := run_of_ok expanded filtered made }
  refine ⟨raw, rawOf, rawOf.result, rfl, rfl, ?_⟩
  have order (rows : List ResultRow) : ResultRow.sort units execution.plan.sort rows = rows := by
    rw [unsorted]
    rfl
  change (ResultRow.sort units execution.plan.sort _).map _ =
    firstSeen _ (ResultRow.sort units execution.plan.sort _)
  rw [order, order]
  exact ResultRow.dropTotals_firstSeen firsts

/-- Hauls at depths that are given as numbers or as texts, and a line of totals. -/
def depthSource : Source where
  activeForms := .ok [.create "haul" "Haul" []]
  fields _ _ := .ok [.plain "s" "Species" .text, .plain "d" "Depth" .text, .plain "n" "Count" .number]
  records _ _ := .ok [⟨"1", "haul", "north", "ann", [
    .object [("s", .text "Carp"), ("d", .integer 4), ("n", .integer 1)],
    .object [("s", .text "Bass"), ("d", .text "5"), ("n", .integer 2)],
    .object [("s", .text "Carp"), ("d", .text "4"), ("n", .integer 3)],
    .object [("s", .text "0"), ("d", .integer 0), ("n", .integer 6)]], []⟩]
  report? reportId := .ok (some ⟨reportId, "Depths", "head", { ReportConfig.empty with
    selectedFields := [⟨"haul", "s", ""⟩, ⟨"haul", "d", ""⟩]
    aggregations := [⟨"haul", "n", "", .sum⟩] }⟩)

/-- The number and the text of a depth are one group, which shows the number that comes first. -/
theorem execute_withoutAggregations_depths :
    ∃ output, (execute (.plain depthSource) "depths" ⟨"ann", "admin", none⟩).result = .ok output ∧
      output.data = [
        [("Species", .text "Carp"), ("Depth", .number 4), ("Count_sum", .number 4)],
        [("Species", .text "Bass"), ("Depth", .text "5"), ("Count_sum", .number 2)]] ∧
      ∃ raw : Execution,
        (execute (.plain depthSource.withoutAggregations) "depths" ⟨"ann", "admin", none⟩).result =
          .ok (raw.output Text.lowerUnits) ∧
        raw.plan.mode = .raw ∧
        output.data.map (ResultRow.restrict (raw.output Text.lowerUnits).columns) =
          firstSeen (ResultRow.keyIn (raw.output Text.lowerUnits).columns)
            (raw.output Text.lowerUnits).data := by
  have made : (execute (.plain depthSource) "depths" ⟨"ann", "admin", none⟩).result.map
      (fun output => (output.columns, output.data)) = .ok (["Species", "Depth", "Count_sum"], [
        [("Species", .text "Carp"), ("Depth", .number 4), ("Count_sum", .number 4)],
        [("Species", .text "Bass"), ("Depth", .text "5"), ("Count_sum", .number 2)]]) := by
    decide +kernel
  obtain ⟨output, success, same⟩ := map_eq_ok.mp made
  obtain ⟨columns, data⟩ := Prod.mk.inj same
  refine ⟨output, success, data, ?_⟩
  have asked : depthSource.activeForms = .ok [.create "haul" "Haul" []] := rfl
  obtain ⟨execution, of, rfl, refines⟩ := execute_withoutAggregations rfl asked
    ⟨rfl, rfl, ⟨_, List.mem_cons_self, _, List.mem_cons_self, rfl⟩,
      ⟨_, List.mem_cons_self, _, List.mem_cons_self, rfl⟩, by decide, by decide⟩ success
  obtain ⟨raw, _, result, mode, shown, firsts⟩ := refines (of.apart (columns ▸ by decide))
  exact ⟨raw, result, mode, shown ▸ firsts⟩

end Engine

end FormReport
