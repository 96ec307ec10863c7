import FormReport.Proofs.SortColumns

set_option autoImplicit false

/- Names in calculations that name nothing. A report either refuses them or takes them for zero, and all
else in planning is the same: what is planned where they are refused is planned as it is where they are
zero, and there every other name is read, or refused, as before. -/
namespace FormReport

/-- No field is found just when none has the reference for its id or its display name. -/
theorem Catalog.lookup?_eq_none_iff {catalog : Catalog} {reference : String} :
    catalog.lookup? reference = none ↔
      ∀ form ∈ catalog, ∀ field ∈ form.fields, field.id ≠ reference ∧ field.name ≠ reference := by
  constructor
  · intro missed form inside field member
    obtain ⟨noId, noName⟩ := Option.or_eq_none_iff.mp missed
    have unidentified := Option.map_eq_none_iff.mp (List.findSome?_eq_none_iff.mp noId form inside)
    have unnamed := Option.map_eq_none_iff.mp (List.findSome?_eq_none_iff.mp noName form inside)
    have retired := (Option.or_eq_none_iff.mp unnamed).2
    exact ⟨fun same => List.find?_eq_none.mp unidentified field member (decide_eq_true same),
      fun same => List.find?_eq_none.mp retired field member (decide_eq_true same)⟩
  · intro unknown
    cases found : catalog.lookup? reference with
    | none => rfl
    | some hit =>
      obtain ⟨formId, field⟩ := hit
      obtain ⟨form, inside, member⟩ := exists_of_lookup? found
      obtain ⟨otherId, otherName⟩ := unknown form inside field member
      exact absurd (id_or_name_of_lookup? found) (not_or.mpr ⟨otherId, otherName⟩)

/-- What takes the place of a leaf matters only for the leaves that there are. -/
theorem Expression.substitute_congr {ε α β : Type} {replace other : α → Except ε (Expression β)}
    {tree : Expression α} (same : ∀ leaf ∈ tree.leaves, replace leaf = other leaf) :
    tree.substitute replace = tree.substitute other := by
  induction tree with
  | ref leaf => exact same leaf (List.mem_singleton_self leaf)
  | number value => rfl
  | neg inner ih => rw [substitute, substitute, ih same]
  | binary operator left right left_ih right_ih =>
    rw [substitute, substitute, left_ih fun leaf here => same leaf (List.mem_append_left _ here),
      right_ih fun leaf there => same leaf (List.mem_append_right _ there)]

/-- Whether a lenient result is the same as a strict one, unless the latter is that a name is refused. -/
def Relaxes {α : Type} (strict lenient : Except PlanError α) : Prop :=
  lenient = strict ∨ ∃ name, strict = .error (.unknownReference name)

namespace Relaxes

variable {α β : Type}

theorem refl (result : Except PlanError α) : Relaxes result result := .inl rfl

/-- Work goes on alike, or it has ended with the refusal. -/
theorem bind {strict lenient : Except PlanError α} (first : Relaxes strict lenient)
    {next other : α → Except PlanError β} (after : ∀ value, Relaxes (next value) (other value)) :
    Relaxes (strict >>= next) (lenient >>= other) := by
  rcases first with rfl | ⟨name, rfl⟩
  · cases lenient with
    | error error => exact .inl rfl
    | ok value => exact after value
  · exact .inr ⟨name, rfl⟩

theorem substitute {replace other : α → Except PlanError (Expression β)}
    (leaves : ∀ leaf, Relaxes (replace leaf) (other leaf)) (tree : Expression α) :
    Relaxes (tree.substitute replace) (tree.substitute other) := by
  induction tree with
  | ref leaf => exact leaves leaf
  | number value => exact .refl _
  | neg inner ih => exact ih.bind fun _ => .refl _
  | binary operator left right left_ih right_ih =>
    exact left_ih.bind fun _ => right_ih.bind fun _ => .refl _

end Relaxes

namespace CalculationScope

def withPolicy (scope : CalculationScope) (policy : UnresolvedPolicy) : CalculationScope :=
  { scope with policy }

/-- Whether a name names nothing: neither an aggregate nor a display column nor a field. -/
def Unknown (scope : CalculationScope) (catalog : Catalog) (name : String) : Prop :=
  (∀ named ∈ scope.aggregates, named.fieldId ≠ name ∧ named.fieldName ≠ name) ∧
    (∀ key ∈ scope.grouping, key.column ≠ name) ∧
    ∀ form ∈ catalog, ∀ field ∈ form.fields, field.id ≠ name ∧ field.name ≠ name

instance (scope : CalculationScope) (catalog : Catalog) (name : String) :
    Decidable (scope.Unknown catalog name) :=
  inferInstanceAs (Decidable (_ ∧ _ ∧ _))

/-- What takes the place of a name: zero for one that names nothing, and for every other one what takes
its place where names that name nothing are refused. -/
def orZero (scope : CalculationScope) (catalog : Catalog) (calculation name : String) :
    Except PlanError Formula :=
  if scope.Unknown catalog name then .ok (.number 0)
  else ((scope.withPolicy .reject).resolve catalog calculation name).result

/-- Whether all names in a source name something. -/
def Knows (scope : CalculationScope) (catalog : Catalog) (source : String) : Prop :=
  ∀ tree, Expression.parse source = .ok tree → ∀ name ∈ tree.leaves, ¬ scope.Unknown catalog name

section

variable {scope : CalculationScope} {catalog : Catalog} {calculation name source : String}

theorem unknown_iff : scope.Unknown catalog name ↔
    AggregateName.column? scope.aggregates name = none ∧ scope.groupingKey? name = none ∧
      catalog.lookup? name = none := by
  rw [AggregateName.column?_eq_none_iff, groupingKey?_eq_none_iff, Catalog.lookup?_eq_none_iff,
    Unknown]
  simp only [not_exists, not_and, not_or, ne_eq]

/-- A name has no meaning just when it names nothing. Over stored rows no aggregates are asked for, and
there are none. -/
theorem leaf?_eq_none_iff (plain : scope.mode.isGrouped = false → scope.aggregates = []) :
    scope.leaf? catalog calculation name = .ok none ↔ scope.Unknown catalog name := by
  rw [unknown_iff, leaf?]
  split
  · unfold groupedLeaf?
    cases AggregateName.column? scope.aggregates name with
    | some column => simp
    | none =>
      cases scope.groupingKey? name with
      | some key => simp
      | none =>
        cases catalog.lookup? name with
        | none => simp
        | some hit =>
          obtain ⟨formId, field⟩ := hit
          dsimp only
          cases scope.groupingKey? field.name <;> simp
  · rename_i raw
    have none : AggregateName.column? scope.aggregates name = none := by
      rw [plain (Bool.eq_false_iff.mpr raw)]
      rfl
    unfold rawLeaf?
    cases scope.groupingKey? name with
    | some key => simp
    | none =>
      cases catalog.lookup? name with
      | none => simp [none]
      | some hit =>
        obtain ⟨formId, field⟩ := hit
        dsimp only
        cases Accessor.ofName catalog field.name (some field.id) <;> simp [bind, Except.bind]

theorem resolve_zero (plain : scope.mode.isGrouped = false → scope.aggregates = []) :
    ((scope.withPolicy .zero).resolve catalog calculation name).result =
      scope.orZero catalog calculation name := by
  have meaning (policy : UnresolvedPolicy) :
      (scope.withPolicy policy).leaf? catalog calculation name =
        scope.leaf? catalog calculation name := rfl
  rw [orZero, result_resolve, result_resolve, meaning, meaning]
  split
  · rename_i unknown
    rw [(leaf?_eq_none_iff plain).mpr unknown]
    rfl
  · rename_i known
    rcases found : scope.leaf? catalog calculation name with fault | (_ | leaf)
    · rfl
    · exact absurd ((leaf?_eq_none_iff plain).mp found) known
    · rfl

theorem not_unknown_of_resolve (plain : scope.mode.isGrouped = false → scope.aggregates = [])
    {part : Formula}
    (resolved : ((scope.withPolicy .reject).resolve catalog calculation name).result = .ok part) :
    ¬ scope.Unknown catalog name := by
  intro unknown
  have meaning : (scope.withPolicy .reject).leaf? catalog calculation name = .ok none :=
    (leaf?_eq_none_iff plain).mpr unknown
  rw [result_resolve, meaning] at resolved
  cases resolved

theorem result_formula (scope : CalculationScope) (catalog : Catalog) (calculation source : String) :
    (scope.formula catalog calculation source).result = parseFormula source >>= fun tree =>
      tree.substitute fun name => (scope.resolve catalog calculation name).result := by
  unfold formula
  rw [Traced.result_bind, Traced.result_ofExcept]
  simp only [Expression.result_substitute]

/-- Policies differ where a name is refused and nowhere else. -/
theorem relaxes_resolve (scope : CalculationScope) (catalog : Catalog) (calculation name : String) :
    Relaxes ((scope.withPolicy .reject).resolve catalog calculation name).result
      ((scope.withPolicy .zero).resolve catalog calculation name).result := by
  rw [result_resolve, result_resolve]
  refine (Relaxes.refl (scope.leaf? catalog calculation name)).bind fun meaning => ?_
  cases meaning with
  | none => exact .inr ⟨name, rfl⟩
  | some leaf => exact .refl _

theorem relaxes_formula (scope : CalculationScope) (catalog : Catalog) (calculation source : String) :
    Relaxes ((scope.withPolicy .reject).formula catalog calculation source).result
      ((scope.withPolicy .zero).formula catalog calculation source).result := by
  rw [result_formula, result_formula]
  exact (Relaxes.refl _).bind (Relaxes.substitute (scope.relaxes_resolve catalog calculation))

theorem relaxes_columns (scope : CalculationScope) (catalog : Catalog) (taken : List String)
    (calculations : List Calculation) :
    Relaxes ((scope.withPolicy .reject).columns catalog taken calculations).result
      ((scope.withPolicy .zero).columns catalog taken calculations).result := by
  induction calculations generalizing taken with
  | nil => exact .refl _
  | cons calculation rest ih =>
    unfold columns
    dsimp only
    split
    · exact .refl _
    · simp only [Traced.result_bind]
      exact (scope.relaxes_formula ..).bind fun _ => (ih _).bind fun _ => .refl _

/-- Where names that name nothing are taken for zero, a calculation becomes its source with zero for
them. -/
theorem formula_zero (plain : scope.mode.isGrouped = false → scope.aggregates = [])
    {formula : Formula}
    (made : ((scope.withPolicy .zero).formula catalog calculation source).result = .ok formula) :
    ∃ tree, Expression.parse source = .ok tree ∧
      tree.substitute (scope.orZero catalog calculation) = .ok formula := by
  rw [result_formula] at made
  obtain ⟨tree, parsed, made⟩ := bind_eq_ok.mp made
  simp only [resolve_zero plain] at made
  exact ⟨tree, mapError_eq_ok.mp parsed, made⟩

theorem knows_of_formula (plain : scope.mode.isGrouped = false → scope.aggregates = [])
    {formula : Formula}
    (made : ((scope.withPolicy .reject).formula catalog calculation source).result = .ok formula) :
    scope.Knows catalog source := by
  intro tree parsed name inside
  rw [result_formula, parseFormula, parsed] at made
  obtain ⟨part, resolved⟩ := Expression.exists_part_of_substitute made name inside
  exact not_unknown_of_resolve plain resolved

/-- Where all names name something it does not matter what becomes of the others. -/
theorem formula_congr (plain : scope.mode.isGrouped = false → scope.aggregates = [])
    (knows : scope.Knows catalog source) :
    ((scope.withPolicy .zero).formula catalog calculation source).result =
      ((scope.withPolicy .reject).formula catalog calculation source).result := by
  rw [result_formula, result_formula, parseFormula]
  cases parsed : Expression.parse source with
  | error fault => rfl
  | ok tree =>
    refine Expression.substitute_congr fun name inside => ?_
    rw [resolve_zero plain, orZero, if_neg (knows tree parsed name inside)]

end

/-- Calculations depend on what they may refer to only through their formulas. -/
theorem columns_congr {scope other : CalculationScope} {catalog : Catalog} {taken : List String}
    {calculations : List Calculation} (same : ∀ calculation ∈ calculations, ∀ column,
      (scope.formula catalog column calculation.expression).result =
        (other.formula catalog column calculation.expression).result) :
    (scope.columns catalog taken calculations).result =
      (other.columns catalog taken calculations).result := by
  induction calculations generalizing taken with
  | nil => rfl
  | cons calculation rest ih =>
    have remaining (taken : List String) : (scope.columns catalog taken rest).result =
        (other.columns catalog taken rest).result :=
      ih fun calculation inside => same calculation (List.mem_cons_of_mem _ inside)
    unfold columns
    dsimp only
    split
    · rfl
    · simp only [Traced.result_bind, same calculation List.mem_cons_self, remaining]

end CalculationScope

/-- What the calculations of a plan may refer to. -/
def Plan.scope (plan : Plan) (policy : UnresolvedPolicy) : CalculationScope where
  mode := plan.mode
  aggregates := plan.aggregateNames
  grouping := plan.grouping
  policy

/-- Whether a calculation has become a column of its name by its source, with zero for the names that
name nothing. -/
structure Plan.Lowers (plan : Plan) (catalog : Catalog) (calculation : Calculation)
    (planned : CalculationColumn) : Prop where
  column : planned.column = Text.trim calculation.name
  source : planned.source = calculation.expression
  formula : ∃ tree, Expression.parse calculation.expression = .ok tree ∧
    tree.substitute ((plan.scope .reject).orZero catalog planned.column) = .ok planned.formula

/-- The settings with another way to deal with names that name nothing. -/
def Settings.withPolicy (settings : Settings) (policy : UnresolvedPolicy) : Settings :=
  { settings with unresolvedReference := policy }

namespace PlanStages

variable {stages : PlanStages} {settings : Settings} {request : PlanRequest}

theorem aggregates_of_not_grouped (raw : (stages.mode request).isGrouped = false) :
    ((stages.plan request).scope .reject).aggregates = [] := by
  have mode : stages.mode request = .raw := by
    cases same : stages.mode request with
    | raw => rfl
    | aggregate =>
      rw [same] at raw
      cases raw
    | aggregateThenCalculate =>
      rw [same] at raw
      cases raw
  exact List.map_eq_nil_iff.mpr (aggregates_of_raw mode)

/-- Only the calculations depend on what becomes of names that name nothing. -/
theorem Accepted.withPolicy {policy other : UnresolvedPolicy}
    (accepted : stages.Accepted (settings.withPolicy policy) request)
    (same : (((stages.plan request).scope policy).columns request.catalog stages.taken
        request.config.calculations).result =
      (((stages.plan request).scope other).columns request.catalog stages.taken
        request.config.calculations).result) :
    stages.Accepted (settings.withPolicy other) request where
  asked := accepted.asked
  selected := accepted.selected
  aggregates := accepted.aggregates
  grouping := accepted.grouping
  calculations := same ▸ accepted.calculations
  filters := accepted.filters
  shown := accepted.shown

end PlanStages

namespace PlanRequest

theorem relaxes_compile (settings : Settings) (request : PlanRequest) :
    Relaxes (request.compile (settings.withPolicy .reject)).result
      (request.compile (settings.withPolicy .zero)).result := by
  unfold compile
  dsimp only
  split
  · exact .refl _
  · simp only [Traced.result_bind, Traced.result_ofExcept]
    refine (Relaxes.refl _).bind fun _ => (Relaxes.refl _).bind fun aggregates =>
      (Relaxes.refl _).bind fun grouping => ?_
    let scope : CalculationScope := {
      mode := Mode.select (!aggregates.columns.isEmpty) (!request.config.calculations.isEmpty)
      aggregates := aggregates.names
      grouping
      policy := .reject }
    exact (scope.relaxes_columns ..).bind fun _ => (Relaxes.refl _).bind fun _ => .refl _

/-- A report is planned where names that name nothing are refused just when it is planned where they are
zero and no calculation has one, and the plans are equal. Where they are zero each calculation is its
source with zero for just these names, and every other name is what it is where they are refused. What
is wrong with a report for another reason than a name is wrong with it in both cases. -/
theorem compile_zero (settings : Settings) (request : PlanRequest) :
    (∀ plan summary, (request.compile (settings.withPolicy .reject)).result = .ok (plan, summary) ↔
      (request.compile (settings.withPolicy .zero)).result = .ok (plan, summary) ∧
        ∀ calculation ∈ request.config.calculations,
          (plan.scope .reject).Knows request.catalog calculation.expression) ∧
    (∀ plan summary, (request.compile (settings.withPolicy .zero)).result = .ok (plan, summary) →
      List.Forall₂ (plan.Lowers request.catalog) request.config.calculations plan.calculations) ∧
    ∀ error, (request.compile (settings.withPolicy .reject)).result = .error error →
      (∃ name, error = .unknownReference name) ∨
        (request.compile (settings.withPolicy .zero)).result = .error error := by
  refine ⟨fun plan summary => ⟨?_, ?_⟩, fun plan summary => ?_, fun error => ?_⟩
  · intro compiled
    refine ⟨?_, fun calculation inside => ?_⟩
    · rcases relaxes_compile settings request with same | ⟨name, refused⟩
      · rw [same, compiled]
      · rw [compiled] at refused
        cases refused
    · obtain ⟨stages, accepted, rfl⟩ := compile_ok compiled
      obtain ⟨column, _, made⟩ :=
        exists_of_forall₂ (CalculationScope.columns_ok accepted.calculations) inside
      exact CalculationScope.knows_of_formula stages.aggregates_of_not_grouped made.formula
  · rintro ⟨compiled, knows⟩
    obtain ⟨stages, accepted, rfl, rfl⟩ := summary_of_compile compiled
    refine compile_of_accepted (accepted.withPolicy ?_)
    exact CalculationScope.columns_congr fun calculation inside _ =>
      CalculationScope.formula_congr stages.aggregates_of_not_grouped (knows calculation inside)
  · intro compiled
    obtain ⟨stages, accepted, rfl⟩ := compile_ok compiled
    refine (CalculationScope.columns_ok accepted.calculations).imp fun calculation planned made => ?_
    exact ⟨made.column, made.source,
      CalculationScope.formula_zero stages.aggregates_of_not_grouped made.formula⟩
  · intro failed
    rcases relaxes_compile settings request with same | ⟨name, refused⟩
    · exact .inr (same.trans failed)
    · rw [failed] at refused
      exact .inl ⟨name, Except.error.inj refused⟩

/-- The sum of the weights, less a loss that is no field of the pond. -/
def lossPlan : Plan where
  mode := .aggregateThenCalculate
  formIds := ["pond"]
  site := none
  filters := []
  grouping := [⟨"Note", ⟨["Note", "note"], .text, []⟩⟩]
  aggregates := [⟨"Mass_sum", "pond", "w", "Mass", .sum, ⟨["Weight", "w"], .number, []⟩, false⟩]
  calculations := [
    ⟨"Double", "w - Loss", .binary .sub (.ref (.aggregate "Mass_sum")) (.number 0)⟩]
  sort := []
  columns := ["Note", "Mass_sum", "Double"]

def lossSummary : PlanSummary where
  mode := .aggregateThenCalculate
  forms := 1
  grouping := 1
  aggregates := 1
  calculations := 1
  filters := 0
  aliases := 0
  ignoredSorts := 0

/-- A name that names nothing is zero, a name of a field that is not grouped by is refused all the
same. -/
theorem compile_zero_loss :
    ((massRequest "w - Loss").compile (Settings.default.withPolicy .zero)).result =
        .ok (lossPlan, lossSummary) ∧
      List.Forall₂ (lossPlan.Lowers (massRequest "w - Loss").catalog)
        (massRequest "w - Loss").config.calculations lossPlan.calculations ∧
      (lossPlan.scope .reject).Unknown (massRequest "w - Loss").catalog "Loss" ∧
      ((massRequest "Weight - Loss").compile (Settings.default.withPolicy .zero)).result =
        .error (.ungroupedReference "Double" "Weight") := by
  have compiled : ((massRequest "w - Loss").compile (Settings.default.withPolicy .zero)).result =
      .ok (lossPlan, lossSummary) := by decide +kernel
  have refused : ((massRequest "Weight - Loss").compile (Settings.default.withPolicy .reject)).result =
      .error (.ungroupedReference "Double" "Weight") := by decide +kernel
  refine ⟨compiled, (compile_zero _ _).2.1 _ _ compiled, by decide, ?_⟩
  rcases (compile_zero _ _).2.2 _ refused with ⟨name, impossible⟩ | still
  · cases impossible
  · exact still

end PlanRequest

end FormReport
