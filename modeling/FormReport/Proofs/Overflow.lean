import FormReport.Proofs.Finiteness

set_option autoImplicit false

/- What becomes of numbers that are too large, and of divisions by zero. In a calculation or in the
formula of a field they leave a missing cell, in an aggregate they end the work. -/
namespace FormReport

namespace AggregateColumn

/-- Whether an aggregate over some rows comes to something that is not finite. -/
def Overflows (planned : AggregateColumn) (rows : List StoredRow) : Prop :=
  ∃ cells, planned.contributions rows = .ok cells ∧
    ((planned.accumulated cells).finish planned.roundsToInteger).isFinite = false

theorem StateAfter.overflows_iff {planned : AggregateColumn} {rows : List StoredRow}
    {state : Accumulator} (after : planned.StateAfter rows state) :
    planned.Overflows rows ↔ (state.finish planned.roundsToInteger).isFinite = false := by
  obtain ⟨cells, contributed, rfl⟩ := after
  constructor
  · rintro ⟨others, again, infinite⟩
    rw [contributed] at again
    rwa [Except.ok.inj again]
  · intro infinite
    exact ⟨cells, contributed, infinite⟩

instance (planned : AggregateColumn) (rows : List StoredRow) : Decidable (planned.Overflows rows) :=
  match contributed : planned.contributions rows with
  | .ok cells =>
    decidable_of_iff (((planned.accumulated cells).finish planned.roundsToInteger).isFinite = false)
      (StateAfter.overflows_iff ⟨cells, contributed, rfl⟩).symm
  | .error _ => isFalse fun ⟨_, again, _⟩ => nomatch contributed.symm.trans again

end AggregateColumn

namespace Plan

variable {plan : Plan} {rows : List StoredRow}

/-- Whether a plan can read in a row what it groups by and what it aggregates. -/
def Readable (plan : Plan) (row : StoredRow) : Prop :=
  (∃ cells, plan.groupingCells row = .ok cells) ∧
    ∃ inputs, plan.aggregates.mapM (input row) = .ok inputs

instance (plan : Plan) (row : StoredRow) : Decidable (plan.Readable row) :=
  decidable_of_iff
    ((plan.groupingCells row).isOk = true ∧ (plan.aggregates.mapM (input row)).isOk = true)
    (and_congr isOk_iff isOk_iff)

theorem exists_groups (readable : ∀ row ∈ rows, plan.Readable row) (before : List Group) :
    ∃ groups, rows.foldlM plan.group before = .ok groups := by
  induction rows generalizing before with
  | nil => exact ⟨before, rfl⟩
  | cons row rest ih =>
    obtain ⟨⟨cells, read⟩, ⟨inputs, given⟩⟩ := readable row List.mem_cons_self
    have stepped : plan.group before row = .ok (Group.add plan cells inputs before) :=
      bind_eq_ok.mpr ⟨cells, read, bind_eq_ok.mpr ⟨inputs, given, rfl⟩⟩
    obtain ⟨groups, remaining⟩ := ih (fun other inside =>
      readable other (List.mem_cons_of_mem _ inside)) (Group.add plan cells inputs before)
    refine ⟨groups, ?_⟩
    rw [List.foldlM_cons]
    exact bind_eq_ok.mpr ⟨_, stepped, remaining⟩

theorem aggregateCell_eq_error {planned : AggregateColumn} {state : Accumulator} {error : RunError} :
    aggregateCell planned state = .error error ↔
      (state.finish planned.roundsToInteger).isFinite = false ∧
        error = .numericOverflow planned.column := by
  unfold aggregateCell
  dsimp only
  cases (state.finish planned.roundsToInteger).isFinite with
  | true => simp
  | false => simp [eq_comm]

theorem groupRow_eq (plan : Plan) (group : Group) :
    plan.groupRow group =
      ((plan.aggregates.zip group.states).mapM fun pair => aggregateCell pair.1 pair.2).map
        fun values => Keyed.ofList (plan.groupingColumns.zip group.cells ++ values) := by
  change ((plan.aggregates.zip group.states).mapM (fun pair => aggregateCell pair.1 pair.2) >>= _) =
    _
  cases (plan.aggregates.zip group.states).mapM fun pair => aggregateCell pair.1 pair.2 <;> rfl

/-- The row of a group fails through an aggregate that overflows. -/
theorem groupRow_eq_error {group : Group} (described : group.Describes plan rows)
    {error : RunError} (failed : plan.groupRow group = .error error) :
    ∃ planned ∈ plan.aggregates, planned.Overflows rows ∧
      error = .numericOverflow planned.column := by
  rw [groupRow_eq] at failed
  have valued : ((plan.aggregates.zip group.states).mapM fun pair =>
      aggregateCell pair.1 pair.2) = .error error := by
    cases valued : (plan.aggregates.zip group.states).mapM fun pair =>
      aggregateCell pair.1 pair.2 <;> rw [valued] at failed <;> cases failed
    rfl
  obtain ⟨⟨planned, state⟩, paired, overflowed⟩ := exists_of_mapM_eq_error valued
  have reached := (List.forall₂_iff_zip.mp described.states).2 paired
  obtain ⟨infinite, named⟩ := aggregateCell_eq_error.mp overflowed
  exact ⟨planned, (List.of_mem_zip paired).1, reached.overflows_iff.mpr infinite, named⟩

theorem not_overflows_of_groupRow {group : Group} (described : group.Describes plan rows)
    {row : ResultRow} (made : plan.groupRow group = .ok row) :
    ∀ planned ∈ plan.aggregates, ¬ planned.Overflows rows := by
  intro planned inside overflows
  obtain ⟨values, valued, _⟩ := bind_eq_ok.mp made
  have each := forall₂_of_zip described.states (mapM_eq_ok.mp valued)
  obtain ⟨value, _, state, reached, computed⟩ := exists_of_forall₂ each inside
  have failed := aggregateCell_eq_error.mpr ⟨reached.overflows_iff.mp overflows, rfl⟩
  exact absurd (failed.symm.trans computed) nofun

/-- Whether some aggregate overflows in some group of rows. -/
def Overflows (plan : Plan) (rows : List StoredRow) : Prop :=
  ∃ key ∈ plan.groupKeys rows, ∃ planned ∈ plan.aggregates,
    planned.Overflows (plan.members rows key)

instance (plan : Plan) (rows : List StoredRow) : Decidable (plan.Overflows rows) :=
  inferInstanceAs (Decidable (∃ key ∈ plan.groupKeys rows, ∃ planned ∈ plan.aggregates,
    planned.Overflows (plan.members rows key)))

/-- Once all is read, an aggregate that overflows is what aggregation fails with. -/
theorem aggregate_of_overflows (readable : ∀ row ∈ rows, plan.Readable row)
    (overflows : plan.Overflows rows) :
    ∃ key ∈ plan.groupKeys rows, ∃ planned ∈ plan.aggregates,
      planned.Overflows (plan.members rows key) ∧
        plan.aggregate rows = .error (.numericOverflow planned.column) := by
  obtain ⟨groups, collected⟩ := exists_groups readable plan.initialGroups
  have grouped := Grouped.run collected
  have same : plan.aggregate rows = groups.mapM plan.groupRow := by
    rw [aggregate, collected]
    rfl
  rw [same]
  cases finished : groups.mapM plan.groupRow with
  | ok finished =>
    -- Every group would have a row, the group in which the aggregate overflows included.
    exfalso
    obtain ⟨key, known, planned, inside, overflows⟩ := overflows
    rw [← grouped.keys] at known
    obtain ⟨group, member, rfl⟩ := List.mem_map.mp known
    obtain ⟨row, _, made⟩ := exists_of_forall₂ (mapM_eq_ok.mp finished) member
    exact not_overflows_of_groupRow (grouped.described group member) made planned inside overflows
  | error error =>
    obtain ⟨group, member, failed⟩ := exists_of_mapM_eq_error finished
    have known : group.key ∈ plan.groupKeys rows := by
      rw [← grouped.keys]
      exact List.mem_map_of_mem member
    obtain ⟨planned, inside, overflows, rfl⟩ :=
      groupRow_eq_error (grouped.described group member) failed
    exact ⟨group.key, known, planned, inside, overflows, rfl⟩

theorem materialize_of_error (grouped : plan.mode.isGrouped = true) {error : RunError}
    (failed : plan.aggregate rows = .error error) : plan.materialize rows = .error error := by
  unfold materialize
  cases mode : plan.mode with
  | raw =>
    rw [mode] at grouped
    cases grouped
  | aggregate => exact failed
  | aggregateThenCalculate =>
    change (plan.aggregate rows >>= _) = _
    rw [failed]
    rfl

end Plan

theorem RowFilter.mem_of_mem_keep {units : Char → List Char} {filters : List RowFilter}
    {rows kept : List StoredRow} (success : keep units filters rows = .ok kept) {row : StoredRow}
    (inside : row ∈ kept) : row ∈ rows := by
  induction rows generalizing kept with
  | nil =>
    cases success
    cases inside
  | cons first rest ih =>
    obtain ⟨passed, _, success⟩ := bind_eq_ok.mp success
    obtain ⟨others, remaining, same⟩ := bind_eq_ok.mp success
    cases same
    split at inside
    · rcases List.mem_cons.mp inside with rfl | later
      · exact List.mem_cons_self
      · exact List.mem_cons_of_mem _ (ih remaining later)
    · exact List.mem_cons_of_mem _ (ih remaining inside)

/-- Whether all numbers that a backend has stored are finite, as those of a document are. -/
def Source.HasFiniteNumbers (source : Source) : Prop :=
  ∀ formIds site records, source.records formIds site = .ok records → ∀ record ∈ records,
    ∀ fields, .object fields ∈ record.rows → ∀ entry ∈ fields, ∀ x,
      entry.2.number? = some x → x.isFinite = true

namespace Engine

theorem fields_of_rowsFrom {record : Record} {index : Nat} {documents : List Json}
    {rows : List StoredRow} (success : rowsFrom record index documents = .ok rows)
    {row : StoredRow} (inside : row ∈ rows) : .object row.fields ∈ documents := by
  induction documents generalizing index rows with
  | nil =>
    cases success
    cases inside
  | cons document rest ih =>
    rw [rowsFrom] at success
    cases document with
    | object fields =>
      obtain ⟨others, remaining, same⟩ := bind_eq_ok.mp success
      cases same
      rcases List.mem_cons.mp inside with rfl | later
      · exact List.mem_cons_self
      · exact List.mem_cons_of_mem _ (ih remaining later)
    | _ => cases success

/-- What is gathered comes from a plan of the report and from rows of the backend. -/
theorem gather_ok {context : Context} {reportId : String} {requester : Requester}
    {report : Report} {plan : Plan} {rows : List StoredRow}
    (gathered : gather context reportId requester = .ok (report, plan, rows)) :
    context.source.report? reportId = .ok (some report) ∧
      (∃ catalog summary,
        (participatingForms context.source report).result = .ok catalog ∧
        (PlanRequest.compile context.settings ⟨report.config, catalog, requester.siteId⟩).result =
          .ok (plan, summary)) ∧
      ∃ records, context.source.records plan.formIds plan.site = .ok records ∧
        ∀ row ∈ rows, ∃ record ∈ records, .object row.fields ∈ record.rows := by
  obtain ⟨report, opened, gathered⟩ := bind_eq_ok.mp gathered
  obtain ⟨catalog, listed, gathered⟩ := bind_eq_ok.mp gathered
  obtain ⟨⟨plan, summary⟩, compiled, gathered⟩ := bind_eq_ok.mp gathered
  obtain ⟨records, queried, gathered⟩ := bind_eq_ok.mp gathered
  obtain ⟨expanded, success, gathered⟩ := bind_eq_ok.mp gathered
  obtain ⟨kept, filtered, same⟩ := bind_eq_ok.mp gathered
  cases same
  refine ⟨openReport_ok opened, ⟨catalog, summary, listed, mapError_eq_ok.mp compiled⟩, records,
    mapError_eq_ok.mp queried, ?_⟩
  intro row inside
  have member := RowFilter.mem_of_mem_keep (mapError_eq_ok.mp filtered) inside
  rw [result_expand] at success
  obtain ⟨lists, each, same⟩ := bind_eq_ok.mp success
  rw [← Except.ok.inj same] at member
  obtain ⟨list, listed, member⟩ := List.mem_flatten.mp member
  obtain ⟨record, known, made⟩ := exists_of_mem_mapM each listed
  exact ⟨record, List.mem_of_mem_filter known, fields_of_rowsFrom (mapError_eq_ok.mp made) member⟩

end Engine

/-- Whether a report leads to no formula that is a literal beyond the doubles: none of its calculations
is one, and no field of the forms that it names is derived from one. -/
structure ReportConfig.IsBounded (config : ReportConfig) (source : Source) : Prop where
  fields : ∀ formId ∈ Engine.namedForms config, ∀ fields, source.fields formId true = .ok fields →
    ∀ field ∈ fields, field.IsBounded
  calculations : ∀ calculation ∈ config.calculations, Expression.IsBounded calculation.expression

namespace Engine

variable {context : Context} {reportId : String} {requester : Requester} {report : Report}
  {plan : Plan} {rows : List StoredRow}

theorem isBounded_of_gather (bounded : report.config.IsBounded context.source)
    (gathered : gather context reportId requester = .ok (report, plan, rows)) :
    plan.Closed ∧ plan.IsBounded ∧ (plan.calculations.map (·.column)).Nodup := by
  obtain ⟨_, ⟨catalog, summary, listed, compiled⟩, _⟩ := gather_ok gathered
  obtain ⟨stages, accepted, rfl⟩ := PlanRequest.compile_ok compiled
  refine ⟨accepted.closed, accepted.isBounded ?_ bounded.calculations,
    accepted.fresh_calculations.2⟩
  intro form inside
  obtain ⟨named, given⟩ := fields_of_participatingForms listed form inside
  exact bounded.fields form.formId named form.fields given

theorem hasFiniteNumbers_of_gather (finite : context.source.HasFiniteNumbers)
    (gathered : gather context reportId requester = .ok (report, plan, rows)) :
    ∀ row ∈ rows, row.HasFiniteNumbers := by
  intro row inside
  obtain ⟨_, _, records, queried, origin⟩ := gather_ok gathered
  obtain ⟨record, known, document⟩ := origin row inside
  exact finite _ _ records queried record known row.fields document

/-- A report over finite numbers shows finite numbers. What divides by zero or overflows is missing in
a calculation, and likewise in a derived field; in an aggregate it is the failure of the report. -/
theorem finite_of_execute (settings : Settings) (units : Char → List Char) (source : Source)
    (finite : source.HasFiniteNumbers) (reportId : String) (requester : Requester)
    (report : Report) (stored : source.report? reportId = .ok (some report))
    (bounded : report.config.IsBounded source) :
    (∀ output, (execute ⟨source, settings, units⟩ reportId requester).result = .ok output →
      ∃ plan rows bases, gather ⟨source, settings, units⟩ reportId requester = .ok (report, plan, rows) ∧
        plan.bases rows = .ok bases ∧
        ∀ row ∈ output.data, row.IsFinite ∧
          ∃ base ∈ bases, plan.extend base = .ok row ∧
            ∀ calculation ∈ plan.calculations,
              (row.get? calculation.column = some .missing ↔
                calculation.formula.IsUndefined (Expression.numberAt base.read))) ∧
    (∀ (row : StoredRow) (accessor : Accessor) (cell : Cell), row.read accessor = .ok cell →
      (cell = .missing ↔ row.probe accessor.keys = .ok .missing ∧
        ∀ formula, accessor.formula? row.formId = some formula →
          formula.IsUndefined (Expression.numberAt row.reading))) ∧
    ∀ plan rows, gather ⟨source, settings, units⟩ reportId requester = .ok (report, plan, rows) →
      plan.mode.isGrouped = true → (∀ row ∈ rows, plan.Readable row) → plan.Overflows rows →
        ∃ key ∈ plan.groupKeys rows, ∃ planned ∈ plan.aggregates,
          planned.Overflows (plan.members rows key) ∧
            (execute ⟨source, settings, units⟩ reportId requester).result =
              .error (.run (.numericOverflow planned.column)) := by
  refine ⟨?_, fun _ _ _ => StoredRow.read_eq_missing, ?_⟩
  · intro output success
    rw [result_execute] at success
    obtain ⟨⟨found, plan, rows⟩, gathered, success⟩ := bind_eq_ok.mp success
    obtain ⟨finished, materialized, same⟩ := bind_eq_ok.mp success
    cases same
    obtain rfl : found = report :=
      Option.some.inj (Except.ok.inj ((gather_ok gathered).1.symm.trans stored))
    have materialized := mapError_eq_ok.mp materialized
    obtain ⟨closed, boundedPlan, distinct⟩ := isBounded_of_gather bounded gathered
    have shown := Plan.isFinite_of_materialize closed boundedPlan
      (hasFiniteNumbers_of_gather finite gathered) materialized
    obtain ⟨bases, based, extended⟩ := Plan.bases_of_materialize closed materialized
    refine ⟨plan, rows, bases, gathered, based, ?_⟩
    intro row inside
    have made := ResultRow.mem_of_mem_dropTotals (ResultRow.mem_of_mem_sort inside)
    obtain ⟨base, paired, extended⟩ := exists_of_forall₂ extended.flip made
    refine ⟨shown row made, base, (List.of_mem_zip paired).2, extended, ?_⟩
    intro calculation planned
    exact Plan.calculation_eq_missing distinct extended planned
  · intro plan rows gathered grouped readable overflows
    obtain ⟨key, known, planned, inside, overflowing, failed⟩ :=
      Plan.aggregate_of_overflows readable overflows
    refine ⟨key, known, planned, inside, overflowing, ?_⟩
    rw [result_execute, gathered]
    change ((plan.materialize rows).mapError ReportError.run >>= _) = _
    rw [Plan.materialize_of_error grouped failed]
    rfl

/-- Rows of a pond with weights near the end of the doubles. -/
def heavyRows : List (Keyed Json) := [
  [("w", .decimal 1e308), ("n", .integer 0), ("note", .text "mud")],
  [("w", .decimal 1e308), ("n", .integer 4), ("note", .text "clear")],
  [("w", .integer 6), ("n", .integer 4), ("note", .text "reeds")]]

/-- A report on each of the rows, with a derived field and a calculation. -/
def ratesReport : Report where
  id := "rates"
  name := "Rates"
  creatorId := "head"
  config := { ReportConfig.empty with
    selectedForms := ["pond"]
    selectedFields := [⟨"pond", "note", ""⟩, ⟨"pond", "square", ""⟩]
    calculations := [⟨"Rate", "Weight / Catch"⟩] }

def totalReport : Report where
  id := "total"
  name := "Total"
  creatorId := "head"
  config := { ReportConfig.empty with
    selectedForms := ["pond"]
    aggregations := [⟨"pond", "w", "", .sum⟩] }

def heavySource : Source where
  activeForms := .ok [.create "pond" "Pond" []]
  fields _ _ := .ok [.plain "w" "Weight" .number, .plain "n" "Catch" .number,
    .plain "note" "Note" .text, .computed "square" "Square" "Weight * Weight"]
  records _ _ := .ok [⟨"r1", "pond", "north", "ann", heavyRows.map .object, []⟩]
  report? reportId := .ok (if reportId = "rates" then some ratesReport else some totalReport)

theorem hasFiniteNumbers_heavySource : heavySource.HasFiniteNumbers := by
  intro formIds site records given record inside fields document entry member x known
  cases given
  cases List.mem_singleton.mp inside
  have all : ∀ fields ∈ heavyRows, ∀ entry ∈ fields,
      ∀ x ∈ entry.2.number?, x.isFinite = true := by decide +kernel
  obtain ⟨_, listed, same⟩ := List.mem_map.mp document
  cases same
  exact all fields listed entry member x known

theorem isBounded_heavySource {config : ReportConfig}
    (calculations : ∀ calculation ∈ config.calculations,
      calculation.expression = "Weight / Catch") : config.IsBounded heavySource := by
  constructor
  · intro formId _ fields given field inside source own tree parsed
    cases given
    have only : ∀ field ∈ [Field.plain "w" "Weight" .number, .plain "n" "Catch" .number,
        .plain "note" "Note" .text, .computed "square" "Square" "Weight * Weight"],
        ∀ source ∈ field.formula?, source = "Weight * Weight" := by decide
    have square : Expression.parse "Weight * Weight" =
        .ok (.binary .mul (.ref "Weight") (.ref "Weight")) := by decide +kernel
    rw [only field inside source own, square] at parsed
    cases parsed
    exact id
  · intro calculation inside tree parsed
    have rate : Expression.parse "Weight / Catch" =
        .ok (.binary .div (.ref "Weight") (.ref "Catch")) := by decide +kernel
    rw [calculations calculation inside, rate] at parsed
    cases parsed
    exact id

theorem finite_of_execute_heavy :
    (∃ output, (execute (.plain heavySource) "rates" ⟨"ann", "admin", none⟩).result =
        .ok output ∧
      output.data = [
        [("Note", .text "mud"), ("Square", .missing), ("Rate", .missing)],
        [("Note", .text "clear"), ("Square", .missing), ("Rate", .number 2.5e307)],
        [("Note", .text "reeds"), ("Square", .number 36), ("Rate", .number 1.5)]] ∧
      ∀ row ∈ output.data, row.IsFinite) ∧
    (execute (.plain heavySource) "total" ⟨"ann", "admin", none⟩).result =
      .error (.run (.numericOverflow "Weight_sum")) := by
  obtain ⟨rates, _⟩ := finite_of_execute .default Text.lowerUnits heavySource
    hasFiniteNumbers_heavySource "rates" ⟨"ann", "admin", none⟩ ratesReport rfl (isBounded_heavySource (by decide +kernel))
  obtain ⟨_, _, total⟩ := finite_of_execute .default Text.lowerUnits heavySource
    hasFiniteNumbers_heavySource "total" ⟨"ann", "admin", none⟩ totalReport rfl (isBounded_heavySource (by decide +kernel))
  constructor
  · have data : (execute (.plain heavySource) "rates" ⟨"ann", "admin", none⟩).result.map
        (·.data) = .ok [
          [("Note", .text "mud"), ("Square", .missing), ("Rate", .missing)],
          [("Note", .text "clear"), ("Square", .missing), ("Rate", .number 2.5e307)],
          [("Note", .text "reeds"), ("Square", .number 36), ("Rate", .number 1.5)]] := by
      decide +kernel
    cases made : (execute (.plain heavySource) "rates" ⟨"ann", "admin", none⟩).result with
    | error error =>
      rw [made] at data
      cases data
    | ok output =>
      rw [made] at data
      obtain ⟨_, _, _, _, _, shown⟩ := rates output made
      exact ⟨output, rfl, Except.ok.inj data, fun row inside => (shown row inside).1⟩
  · have meets : (gather (.plain heavySource) "total" ⟨"ann", "admin", none⟩).toOption.any
        (fun found => found.2.1.mode.isGrouped ∧ (∀ row ∈ found.2.2, found.2.1.Readable row) ∧
          found.2.1.Overflows found.2.2 ∧
            found.2.1.aggregates.map (·.column) = ["Weight_sum"]) = true := by
      decide +kernel
    cases gathered : gather (.plain heavySource) "total" ⟨"ann", "admin", none⟩ with
    | error error =>
      rw [gathered] at meets
      cases meets
    | ok found =>
      obtain ⟨report, plan, rows⟩ := found
      rw [gathered] at meets
      obtain ⟨grouped, readable, overflows, names⟩ := of_decide_eq_true meets
      obtain rfl : totalReport = report :=
        Option.some.inj (Except.ok.inj ((gather_ok gathered).1))
      obtain ⟨_, _, planned, inside, _, failed⟩ :=
        total plan rows gathered grouped readable overflows
      have column : planned.column ∈ plan.aggregates.map (·.column) := List.mem_map_of_mem inside
      rw [names, List.mem_singleton] at column
      rwa [column] at failed

/-- A field that is derived from a literal beyond the doubles. -/
def endlessSource : Source where
  activeForms := .ok [.create "pond" "Pond" []]
  fields _ _ := .ok [.computed "big" "Big" "1e999"]
  records _ _ := .ok [⟨"r1", "pond", "north", "ann", [.object []], []⟩]
  report? reportId := .ok (some ⟨reportId, "Sizes", "head", { ReportConfig.empty with
    selectedForms := ["pond"]
    selectedFields := [⟨"pond", "big", ""⟩] }⟩)

/-- No guard stands between such a literal and the row. -/
theorem not_finite_of_execute :
    endlessSource.HasFiniteNumbers ∧
      ∃ output, (execute (.plain endlessSource) "sizes" ⟨"ann", "admin", none⟩).result =
          .ok output ∧
        output.data = [[("Big", .number Number.infinity)]] ∧
        ¬ ∀ row ∈ output.data, row.IsFinite := by
  constructor
  · intro formIds site records given record inside fields document entry member
    cases given
    cases List.mem_singleton.mp inside
    cases List.mem_singleton.mp document
    cases member
  · have data : (execute (.plain endlessSource) "sizes" ⟨"ann", "admin", none⟩).result.map
        (·.data) = .ok [[("Big", .number Number.infinity)]] := by decide +kernel
    cases made : (execute (.plain endlessSource) "sizes" ⟨"ann", "admin", none⟩).result with
    | error error =>
      rw [made] at data
      cases data
    | ok output =>
      rw [made] at data
      have data : output.data = [[("Big", .number Number.infinity)]] := Except.ok.inj data
      refine ⟨output, rfl, data, ?_⟩
      rw [data]
      intro finite
      have shown : Number.infinity.isFinite = true :=
        finite _ (List.mem_singleton_self _) _ (List.mem_singleton_self _)
      exact absurd shown (by decide +kernel)

end Engine

end FormReport
