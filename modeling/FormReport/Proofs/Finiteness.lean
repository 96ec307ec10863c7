import FormReport.Proofs.Base
import FormReport.Proofs.Derivation
import FormReport.Proofs.Double

set_option autoImplicit false

/- Every number in a finished row is finite, with one exception: a formula that is nothing but a literal
beyond the doubles. All other numbers pass a guard, be it that of stored texts, of the operators or of
the aggregates. -/
namespace FormReport

namespace Expression

variable {ε α β : Type}

/-- Whether an expression is a literal beyond the doubles, under any number of signs. Where there is an
operator, its result is checked. -/
def IsBoundless : Expression α → Prop
  | ref _ => False
  | .number value => value.isFinite = false
  | neg inner => inner.IsBoundless
  | binary .. => False

/-- Whether an operator of an expression divides by zero or overflows. -/
def IsUndefined (number : α → Float) : Expression α → Prop
  | ref _ => False
  | .number _ => False
  | neg inner => inner.IsUndefined number
  | binary operator left right =>
    left.IsUndefined number ∨ right.IsUndefined number ∨
      ∃ x y, left.value number = some x ∧ right.value number = some y ∧
        (operator = .div ∧ (y == 0) = true ∨ (operator.rounded x y).isFinite = false)

theorem value_eq_none {number : α → Float} {tree : Expression α} :
    tree.value number = none ↔ tree.IsUndefined number := by
  induction tree with
  | ref leaf => simp [value, IsUndefined]
  | number literal => simp [value, IsUndefined]
  | neg inner ih => rw [value, Option.map_eq_none_iff, ih, IsUndefined]
  | binary operator left right left_ih right_ih =>
    rw [value, IsUndefined, ← left_ih, ← right_ih]
    cases left.value number with
    | none => simp
    | some x =>
      cases right.value number with
      | none => simp
      | some y =>
        by_cases zero : operator = .div ∧ (y == 0) = true
        · simp [zero]
        · simp [zero]

theorem isFinite_iff {number : α → Float} (finite : ∀ leaf, (number leaf).isFinite = true)
    {tree : Expression α} {x : Float} (valued : tree.value number = some x) :
    x.isFinite = true ↔ ¬ tree.IsBoundless := by
  induction tree generalizing x with
  | ref leaf =>
    cases valued
    exact iff_of_true (finite leaf) id
  | number literal =>
    cases valued
    rw [IsBoundless, Bool.not_eq_false]
  | neg inner ih =>
    obtain ⟨y, computed, rfl⟩ := Option.map_eq_some_iff.mp valued
    rw [Number.isFinite_neg, ih computed, IsBoundless]
  | binary operator left right =>
    rw [value] at valued
    refine iff_of_true ?_ id
    split at valued
    · split at valued
      · cases valued
      · split at valued
        · rename_i finite
          cases valued
          exact finite
        · cases valued
    · cases valued

theorem eval_ok {read : α → Except ε (Option Float)} {tree : Expression α} {value : Option Float}
    (evaluated : tree.eval read = .ok value) : value = tree.value (numberAt read) := by
  rw [eval_eq_interpret] at evaluated
  obtain ⟨_, _, same⟩ := bind_eq_ok.mp evaluated
  exact (Except.ok.inj same).symm

/-- An expression over finite numbers has a finite value, if any, unless it is a literal beyond the
doubles. -/
theorem isFinite_eval {read : α → Except ε (Option Float)}
    (finite : ∀ leaf x, read leaf = .ok (some x) → x.isFinite = true) {tree : Expression α}
    {x : Float} (evaluated : tree.eval read = .ok (some x)) :
    x.isFinite = true ↔ ¬ tree.IsBoundless := by
  refine isFinite_iff (fun leaf => ?_) (eval_ok evaluated).symm
  unfold numberAt
  split
  · rename_i y known
    exact finite leaf y known
  · exact Number.isFinite_zero

theorem isBoundless_substitute {replace : α → Except ε (Expression β)}
    (bounded : ∀ leaf part, replace leaf = .ok part → ¬ part.IsBoundless) {tree : Expression α}
    {formula : Expression β} (success : tree.substitute replace = .ok formula) :
    formula.IsBoundless ↔ tree.IsBoundless := by
  induction tree generalizing formula with
  | ref leaf => exact iff_of_false (bounded leaf formula success) id
  | number literal =>
    cases success
    rfl
  | neg inner ih =>
    obtain ⟨lowered, replaced, same⟩ := bind_eq_ok.mp success
    cases same
    change lowered.IsBoundless ↔ inner.IsBoundless
    exact ih replaced
  | binary operator left right =>
    obtain ⟨first, _, rest⟩ := bind_eq_ok.mp success
    obtain ⟨second, _, same⟩ := bind_eq_ok.mp rest
    cases same
    rfl

end Expression

namespace Cell

/-- Whether a cell is no infinite number. -/
def IsFinite : Cell → Prop
  | number value => value.isFinite = true
  | _ => True

theorem isFinite_of_ofText? {text : String} {x : Float} (read : Number.ofText? text = some x) :
    x.isFinite = true :=
  (Option.filter_eq_some_iff.mp read).2

theorem isFinite_of_number? {cell : Cell} {x : Float} (counted : cell.number? = some x) :
    x.isFinite = true := by
  cases cell with
  | text value => exact isFinite_of_ofText? counted
  | number value =>
    rw [number?] at counted
    split at counted
    · rename_i finite
      cases counted
      exact finite
    · cases counted
  | date value => cases counted
  | missing => cases counted

theorem IsFinite.typed {cell : Cell} (finite : cell.IsFinite) (valueType : ValueType) :
    (cell.typed valueType).IsFinite := by
  unfold Cell.typed
  split
  · split
    · rename_i read
      exact isFinite_of_ofText? read
    · trivial
  · split <;> trivial
  · exact finite

theorem isFinite_of_ofJson? {stored : Json} {cell : Cell}
    (finite : ∀ x, stored.number? = some x → x.isFinite = true)
    (made : ofJson? stored = some cell) : cell.IsFinite := by
  cases stored with
  | integer value =>
    cases made
    exact finite _ rfl
  | decimal value =>
    cases made
    exact finite _ rfl
  | null =>
    cases made
    trivial
  | bool value =>
    cases made
    trivial
  | text value =>
    cases made
    trivial
  | array items => cases made
  | object fields => cases made

theorem typed_ne_missing {cell : Cell} (valueType : ValueType) (present : cell.isMissing = false) :
    cell.typed valueType ≠ missing := by
  unfold typed
  split
  · split <;> exact nofun
  · split <;> exact nofun
  · rintro rfl
    cases present

end Cell

/-- The formula that an accessor has for the rows of a form. -/
def Accessor.formula? (accessor : Accessor) (formId : String) : Option (Expression Accessor) :=
  Keyed.get? accessor.derivations formId

namespace StoredRow

/-- Whether the numbers among the stored values of a row are finite. -/
def HasFiniteNumbers (row : StoredRow) : Prop :=
  ∀ entry ∈ row.fields, ∀ x, entry.2.number? = some x → x.isFinite = true

theorem isFinite_of_reading {row : StoredRow} {accessor : Accessor} {x : Float}
    (known : row.reading accessor = .ok (some x)) : x.isFinite = true := by
  unfold reading at known
  cases read : row.read accessor with
  | error error =>
    rw [read] at known
    cases known
  | ok cell =>
    rw [read] at known
    exact Cell.isFinite_of_number? (Except.ok.inj known)

/-- What is read is finite where the stored numbers are and no formula is a literal beyond the
doubles. -/
theorem isFinite_of_read {row : StoredRow} (finite : row.HasFiniteNumbers) {accessor : Accessor}
    (bounded : ∀ derivation ∈ accessor.derivations, ¬ derivation.2.IsBoundless) {cell : Cell}
    (read : row.read accessor = .ok cell) : cell.IsFinite := by
  rcases cases_of_read read with ⟨key, stored, scalar, found, made, rfl⟩ |
    ⟨_, ⟨_, rfl⟩ | ⟨formula, value, own, evaluated, rfl⟩⟩
  · have held := (Option.filter_eq_some_iff.mp (of_firstStored? found).2).1
    have stored := Cell.isFinite_of_ofJson? (finite _ (Keyed.mem_of_get? held)) made
    exact stored.typed accessor.valueType
  · trivial
  · cases value with
    | none => trivial
    | some x =>
      exact (Expression.isFinite_eval (fun _ _ => isFinite_of_reading) evaluated).mpr
        (bounded _ (Keyed.mem_of_get? own))

/-- A field reads as missing just when nothing is stored for it and its formula, if it has one, has no
value. -/
theorem read_eq_missing {row : StoredRow} {accessor : Accessor} {cell : Cell}
    (read : row.read accessor = .ok cell) :
    cell = .missing ↔ row.probe accessor.keys = .ok .missing ∧
      ∀ formula, accessor.formula? row.formId = some formula →
        formula.IsUndefined (Expression.numberAt row.reading) := by
  rcases cases_of_read read with ⟨key, stored, scalar, found, made, rfl⟩ | ⟨nothing, computed⟩
  · have present := Cell.isMissing_of_ofJson? made (isMeaningful_of_firstStored? found)
    have probed : row.probe accessor.keys = .ok scalar := by
      rw [probe_eq, found]
      simp only [made]
    refine iff_of_false (Cell.typed_ne_missing _ present) fun ⟨missing, _⟩ => ?_
    cases probed.symm.trans missing
    cases present
  · have probed : row.probe accessor.keys = .ok .missing := by rw [probe_eq, nothing]
    simp only [probed, true_and, Accessor.formula?]
    rcases computed with ⟨none, rfl⟩ | ⟨formula, value, own, evaluated, rfl⟩
    · exact iff_of_true rfl fun formula own => by cases none.symm.trans own
    · simp only [own, Option.some.injEq, forall_eq']
      rw [← Expression.value_eq_none, ← Expression.eval_ok evaluated]
      cases value <;> simp [Cell.ofNumber?]

end StoredRow

/-- Whether a source is no literal beyond the doubles. -/
def Expression.IsBounded (source : String) : Prop :=
  ∀ tree, parse source = .ok tree → ¬ tree.IsBoundless

/-- Whether the formula of a field, if it has one, is no literal beyond the doubles. -/
def Field.IsBounded (field : Field) : Prop :=
  ∀ source, field.formula? = some source → Expression.IsBounded source

def Accessor.IsBounded (accessor : Accessor) : Prop :=
  ∀ derivation ∈ accessor.derivations, ¬ derivation.2.IsBoundless

theorem FormFields.isBounded_of_derivation {catalog : Catalog} {form : FormFields}
    {visiting : List String} {field : Field} (bounded : field.IsBounded)
    {formula : Expression Accessor}
    (derived : form.derivation catalog visiting field = .ok (some formula)) :
    ¬ formula.IsBoundless := by
  rcases derivation_cases derived with ⟨_, impossible⟩ |
    ⟨source, tree, resolved, own, _, parsed, replaced, same⟩
  · cases impossible
  · cases same
    rw [Expression.isBoundless_substitute _ replaced]
    · exact bounded source own tree parsed
    · intro name part made
      obtain ⟨_, _, _, _, rfl⟩ := exists_of_reference made
      exact id

namespace Accessor

theorem isBounded_of_derivationIn {name : String} {form : FormFields}
    (bounded : ∀ field ∈ form.fields, field.IsBounded)
    {derivations : List (String × Expression Accessor)}
    (derived : derivationIn name form = .ok derivations) :
    ∀ derivation ∈ derivations, ¬ derivation.2.IsBoundless := by
  rcases FormFields.derivationIn_cases derived with ⟨_, rfl⟩ | ⟨field, formula?, found, resolved, rfl⟩
  · exact nofun
  · intro derivation member
    cases formula? with
    | none => cases member
    | some formula =>
      cases List.mem_singleton.mp member
      have inside := FormFields.mem_of_fieldByName? found
      exact FormFields.isBounded_of_derivation (bounded field inside) resolved

theorem isBounded_ofName {catalog : Catalog}
    (bounded : ∀ form ∈ catalog, ∀ field ∈ form.fields, field.IsBounded) {name : String}
    {declaredId : Option String} {accessor : Accessor}
    (made : ofName catalog name declaredId = .ok accessor) : accessor.IsBounded := by
  intro derivation member
  obtain ⟨form, known, part, each, inside⟩ := exists_derivationIn_of_ofName made member
  exact isBounded_of_derivationIn (bounded form known) each derivation inside

end Accessor

namespace GroupingKey

theorem isBounded_ofFields {catalog : Catalog}
    (bounded : ∀ form ∈ catalog, ∀ field ∈ form.fields, field.IsBounded)
    {fields : List SelectedField} {grouping : List GroupingKey}
    (made : ofFields catalog fields = .ok grouping) :
    ∀ grouped ∈ grouping, grouped.accessor.IsBounded := by
  intro grouped inside
  obtain ⟨_, accessor, resolved, formulas, _⟩ := exists_ofName_of_ofFields made grouped inside
  rw [Accessor.IsBounded, ← formulas]
  exact Accessor.isBounded_ofName bounded resolved

end GroupingKey

/-- A calculation is no literal beyond the doubles unless its source is one. -/
theorem CalculationScope.isBounded_of_formula {scope : CalculationScope} {catalog : Catalog}
    {calculation source : String} (bounded : Expression.IsBounded source) {formula : Formula}
    (lowered : (scope.formula catalog calculation source).result = .ok formula) :
    ¬ formula.IsBoundless := by
  unfold CalculationScope.formula at lowered
  rw [Traced.result_bind, Traced.result_ofExcept] at lowered
  obtain ⟨tree, parsed, lowered⟩ := bind_eq_ok.mp lowered
  rw [Expression.result_substitute] at lowered
  rw [Expression.isBoundless_substitute _ lowered]
  · exact bounded tree (mapError_eq_ok.mp parsed)
  · intro name part resolved
    rw [result_resolve] at resolved
    obtain ⟨meaning, _, resolved⟩ := bind_eq_ok.mp resolved
    cases meaning with
    | some leaf =>
      cases resolved
      exact id
    | none =>
      cases policy : scope.policy with
      | reject =>
        rw [policy] at resolved
        cases resolved
      | zero =>
        rw [policy] at resolved
        cases resolved
        rw [Expression.IsBoundless, Number.isFinite_zero]
        exact nofun

/-- Whether no formula of a plan is a literal beyond the doubles, be it that of a calculation or that
of a field that is displayed. Those of aggregated fields do not matter. -/
structure Plan.IsBounded (plan : Plan) : Prop where
  grouping : ∀ key ∈ plan.grouping, key.accessor.IsBounded
  calculations : ∀ calculation ∈ plan.calculations, ¬ calculation.formula.IsBoundless

theorem PlanStages.Accepted.isBounded {stages : PlanStages} {settings : Settings}
    {request : PlanRequest} (accepted : stages.Accepted settings request)
    (fields : ∀ form ∈ request.catalog, ∀ field ∈ form.fields, field.IsBounded)
    (calculations : ∀ calculation ∈ request.config.calculations,
      Expression.IsBounded calculation.expression) : (stages.plan request).IsBounded := by
  refine ⟨GroupingKey.isBounded_ofFields fields accepted.grouping, ?_⟩
  intro planned inside
  obtain ⟨calculation, paired, made⟩ :=
    exists_of_forall₂ (CalculationScope.columns_ok accepted.calculations).flip inside
  exact CalculationScope.isBounded_of_formula (calculations _ (List.of_mem_zip paired).2)
    made.formula

/-- Whether no cell of a row is an infinite number. -/
def ResultRow.IsFinite (row : ResultRow) : Prop := ∀ entry ∈ row, entry.2.IsFinite

theorem ResultRow.IsFinite.extend {row : ResultRow} (finite : row.IsFinite)
    {values : List (String × Cell)} (added : ∀ value ∈ values, value.2.IsFinite) :
    IsFinite (values.foldl (fun row value => row.set value.1 value.2) row) := by
  intro entry inside
  rcases Keyed.mem_of_mem_foldl_set inside with kept | set
  · exact finite entry kept
  · exact added entry set

theorem ResultRow.isFinite_ofList {entries : List (String × Cell)}
    (finite : ∀ entry ∈ entries, entry.2.IsFinite) : IsFinite (Keyed.ofList entries) :=
  IsFinite.extend (fun _ inside => absurd inside List.not_mem_nil) finite

/-- Whether a base holds finite numbers and gives finite numbers to calculations. -/
structure Base.IsFinite (base : Base) : Prop where
  row : base.row.IsFinite
  read : ∀ leaf x, base.read leaf = .ok (some x) → x.isFinite = true

theorem StoredRow.isFinite_of_leaf {row : StoredRow} {leaf : Leaf Accessor} {x : Float}
    (known : row.leaf leaf = .ok (some x)) : x.isFinite = true := by
  cases leaf with
  | aggregate column => cases known
  | grouping column => cases known
  | raw accessor =>
    obtain ⟨cell, _, same⟩ := bind_eq_ok.mp known
    exact Cell.isFinite_of_number? (Except.ok.inj same)

theorem ResultRow.isFinite_of_leaf {row : ResultRow} {leaf : Leaf Accessor} {x : Float}
    (known : ResultRow.leaf row leaf = .ok (some x)) : x.isFinite = true := by
  have counted {column : String} (found : ResultRow.number? row column = some x) :
      x.isFinite = true := by
    obtain ⟨cell, _, counted⟩ := Option.bind_eq_some_iff.mp found
    exact Cell.isFinite_of_number? counted
  cases leaf with
  | aggregate column => exact counted (Except.ok.inj known)
  | grouping column => exact counted (Except.ok.inj known)
  | raw accessor => cases known

namespace Plan

variable {plan : Plan} {rows : List StoredRow}

theorem isFinite_of_aggregateCell {planned : AggregateColumn} {state : Accumulator}
    {value : String × Cell} (made : aggregateCell planned state = .ok value) :
    value.2.IsFinite := by
  unfold aggregateCell at made
  dsimp only at made
  split at made
  · rename_i finite
    cases made
    exact finite
  · cases made

/-- The cells that a group shows are read from stored rows. -/
theorem isFinite_of_describes (bounded : plan.IsBounded)
    (finite : ∀ row ∈ rows, row.HasFiniteNumbers) {group : Group}
    (described : group.Describes plan rows) : ∀ cell ∈ group.cells, cell.IsFinite := by
  have shown := described.cells
  cases rows with
  | nil =>
    rw [← Except.ok.inj shown]
    exact nofun
  | cons first others =>
    intro cell inside
    obtain ⟨key, known, read⟩ := exists_of_mem_mapM shown inside
    exact StoredRow.isFinite_of_read (finite first List.mem_cons_self)
      (bounded.grouping key known) read

theorem isFinite_of_aggregate (bounded : plan.IsBounded)
    (finite : ∀ row ∈ rows, row.HasFiniteNumbers) {finished : List ResultRow}
    (success : plan.aggregate rows = .ok finished) : ∀ row ∈ finished, row.IsFinite := by
  intro row inside
  obtain ⟨groups, collected, each⟩ := bind_eq_ok.mp success
  obtain ⟨group, known, made⟩ := exists_of_mem_mapM each inside
  obtain ⟨values, valued, same⟩ := bind_eq_ok.mp made
  cases same
  have described := (Grouped.run collected).described group known
  have shown := isFinite_of_describes bounded
    (fun row member => finite row (List.mem_of_mem_filter member)) described
  apply ResultRow.isFinite_ofList
  intro entry member
  rcases List.mem_append.mp member with displayed | aggregated
  · exact shown entry.2 (List.of_mem_zip displayed).2
  · obtain ⟨_, _, computed⟩ := exists_of_mem_mapM valued aggregated
    exact isFinite_of_aggregateCell computed

theorem isFinite_of_rawBase (bounded : plan.IsBounded) {row : StoredRow}
    (finite : row.HasFiniteNumbers) {base : Base} (made : plan.rawBase row = .ok base) :
    base.IsFinite := by
  obtain ⟨cells, read, same⟩ := bind_eq_ok.mp made
  cases same
  refine ⟨ResultRow.isFinite_ofList ?_, fun _ _ => StoredRow.isFinite_of_leaf⟩
  intro entry inside
  obtain ⟨key, known, found⟩ := exists_of_mem_mapM read inside
  obtain ⟨cell, read, same⟩ := bind_eq_ok.mp found
  cases same
  exact StoredRow.isFinite_of_read finite (bounded.grouping key known) read

theorem isFinite_of_bases (bounded : plan.IsBounded)
    (finite : ∀ row ∈ rows, row.HasFiniteNumbers) {bases : List Base}
    (made : plan.bases rows = .ok bases) : ∀ base ∈ bases, base.IsFinite := by
  intro base inside
  unfold Plan.bases at made
  split at made
  · cases aggregated : plan.aggregate rows with
    | error error =>
      rw [aggregated] at made
      cases made
    | ok groups =>
      rw [aggregated] at made
      cases made
      obtain ⟨row, member, rfl⟩ := List.mem_map.mp inside
      exact ⟨isFinite_of_aggregate bounded finite aggregated row member,
        fun _ _ => ResultRow.isFinite_of_leaf⟩
  · obtain ⟨row, known, based⟩ := exists_of_mem_mapM made inside
    exact isFinite_of_rawBase bounded (finite row known) based

theorem isFinite_of_extend (bounded : plan.IsBounded) {base : Base} (finite : base.IsFinite)
    {row : ResultRow} (extended : plan.extend base = .ok row) : row.IsFinite := by
  obtain ⟨values, calculated, same⟩ := bind_eq_ok.mp extended
  cases same
  refine finite.row.extend ?_
  intro entry inside
  obtain ⟨calculation, known, computed⟩ := exists_of_mem_mapM calculated inside
  obtain ⟨value, evaluated, same⟩ := bind_eq_ok.mp computed
  cases same
  cases value with
  | none => trivial
  | some x =>
    exact (Expression.isFinite_eval finite.read evaluated).mpr
      (bounded.calculations calculation known)

/-- A finished row has finite numbers only. -/
theorem isFinite_of_materialize (closed : plan.Closed) (bounded : plan.IsBounded)
    (finite : ∀ row ∈ rows, row.HasFiniteNumbers) {finished : List ResultRow}
    (success : plan.materialize rows = .ok finished) : ∀ row ∈ finished, row.IsFinite := by
  intro row inside
  obtain ⟨bases, made, extended⟩ := bases_of_materialize closed success
  obtain ⟨base, paired, extended⟩ := exists_of_forall₂ extended.flip inside
  exact isFinite_of_extend bounded
    (isFinite_of_bases bounded finite made base (List.of_mem_zip paired).2) extended

/-- A calculation is missing just when one of its operators divides by zero or overflows. -/
theorem calculation_eq_missing {base : Base} {row : ResultRow}
    (distinct : (plan.calculations.map (·.column)).Nodup) (extended : plan.extend base = .ok row)
    {calculation : CalculationColumn} (planned : calculation ∈ plan.calculations) :
    row.get? calculation.column = some .missing ↔
      calculation.formula.IsUndefined (Expression.numberAt base.read) := by
  obtain ⟨value, evaluated, cell⟩ := get?_calculation_of_extend distinct extended planned
  rw [cell, ← Expression.value_eq_none, ← Expression.eval_ok evaluated]
  cases value <;> simp [Cell.ofNumber?]

end Plan

end FormReport
