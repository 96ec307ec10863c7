import FormReport.Proofs.Closure
import FormReport.Run.Row

set_option autoImplicit false

/- What expressions mean, told from their source: every name is read, in order, before anything is
computed, and the rest is arithmetic on the numbers that were read. The formula into which planning
turns a source has the meaning of the source. -/
namespace FormReport

/-- The value of an operator in floating point, finite or not. -/
def Operator.rounded (operator : Operator) (left right : Float) : Float :=
  match operator with
  | add => left + right
  | sub => left - right
  | mul => left * right
  | div => left / right

theorem Operator.apply_eq (operator : Operator) (left right : Float) :
    operator.apply left right =
      if operator = .div ∧ (right == 0) = true then none
      else if (operator.rounded left right).isFinite then some (operator.rounded left right)
      else none := by
  cases operator with
  | add => rfl
  | sub => rfl
  | mul => rfl
  | div =>
    simp only [apply, rounded, true_and]
    rfl

namespace Expression

variable {ε ε' α β : Type}

/-- The value of an expression over numbers for its leaves. Nothing comes of an operand without a
value, of a division by zero, or of an operator whose result is not finite. -/
def value (number : α → Float) : Expression α → Option Float
  | ref leaf => some (number leaf)
  | .number literal => some literal
  | neg inner => (inner.value number).map fun x => -x
  | binary operator left right =>
    match left.value number, right.value number with
    | some x, some y =>
      if operator = .div ∧ (y == 0) = true then none
      else if (operator.rounded x y).isFinite then some (operator.rounded x y) else none
    | _, _ => none

/-- The number that a leaf counts for: zero where it has none. -/
def numberAt (read : α → Except ε (Option Float)) (leaf : α) : Float :=
  match read leaf with
  | .ok (some x) => x
  | _ => 0

/-- The meaning of an expression. All leaves are read first, from left to right; the first that cannot
be read is what comes out, whatever the values of the others would be. -/
def interpret (read : α → Except ε (Option Float)) (tree : Expression α) :
    Except ε (Option Float) := do
  let _ ← tree.leaves.mapM read
  .ok (tree.value (numberAt read))

theorem eval_eq_interpret (read : α → Except ε (Option Float)) (tree : Expression α) :
    tree.eval read = tree.interpret read := by
  induction tree with
  | ref leaf =>
    simp only [eval, interpret, leaves, List.mapM_cons, List.mapM_nil, value, numberAt]
    rcases read leaf with error | (_ | x) <;> rfl
  | number literal => rfl
  | neg inner ih =>
    simp only [eval, interpret, leaves, value, ih]
    cases inner.leaves.mapM read <;> rfl
  | binary operator left right left_ih right_ih =>
    simp only [eval, interpret, leaves, value, left_ih, right_ih, List.mapM_append]
    cases left.leaves.mapM read with
    | error error => rfl
    | ok _ =>
      cases right.leaves.mapM read with
      | error error => rfl
      | ok _ =>
        simp only [bind, Except.bind, pure, Except.pure, Except.ok.injEq]
        rcases left.value (numberAt read) with _ | x
        · rfl
        · rcases right.value (numberAt read) with _ | y
          · rfl
          · exact Operator.apply_eq operator x y

/-- An expression evaluates as its source does when every part that took the place of a leaf evaluates
as the leaf does. -/
theorem eval_substitute {replace : α → Except ε (Expression β)}
    {read : β → Except ε' (Option Float)} {stands : α → Except ε' (Option Float)}
    (agrees : ∀ leaf part, replace leaf = .ok part → part.eval read = (ref leaf).eval stands)
    {tree : Expression α} {formula : Expression β} (success : tree.substitute replace = .ok formula) :
    formula.eval read = tree.eval stands := by
  induction tree generalizing formula with
  | ref leaf => exact agrees leaf formula success
  | number literal =>
    cases success
    rfl
  | neg inner ih =>
    obtain ⟨lowered, replaced, same⟩ := bind_eq_ok.mp success
    cases same
    rw [eval, eval, ih replaced]
  | binary operator left right left_ih right_ih =>
    obtain ⟨first, replacedFirst, rest⟩ := bind_eq_ok.mp success
    obtain ⟨second, replacedSecond, same⟩ := bind_eq_ok.mp rest
    cases same
    rw [eval, eval, left_ih replacedFirst, right_ih replacedSecond]

/-- A substitution fails as the replacement of the leaves, one after the other, does. -/
theorem substitute_eq_error {replace : α → Except ε (Expression β)} {tree : Expression α}
    {error : ε} : tree.substitute replace = .error error ↔
      tree.leaves.mapM replace = .error error := by
  suffices same : (tree.substitute replace).map (fun _ => ()) =
      (tree.leaves.mapM replace).map (fun _ => ()) by
    cases substituted : tree.substitute replace <;> cases replaced : tree.leaves.mapM replace <;>
      simp_all [Except.map]
  induction tree with
  | ref leaf =>
    simp only [substitute, leaves, List.mapM_cons, List.mapM_nil]
    cases replace leaf <;> rfl
  | number literal => rfl
  | neg inner ih =>
    simp only [substitute, leaves, ← ih]
    cases inner.substitute replace <;> rfl
  | binary operator left right left_ih right_ih =>
    simp only [substitute, leaves, List.mapM_append]
    cases substituted : left.substitute replace <;> cases replaced : left.leaves.mapM replace <;>
      rw [substituted, replaced] at left_ih <;> cases left_ih
    · rfl
    · change Except.map _ (right.substitute replace >>= _) =
        Except.map _ (right.leaves.mapM replace >>= _)
      cases substitutedRight : right.substitute replace <;>
        cases replacedRight : right.leaves.mapM replace <;>
          rw [substitutedRight, replacedRight] at right_ih <;> cases right_ih <;> rfl

end Expression

namespace CalculationScope

/-- What a name in a calculation stands for over an input: the value of the leaf that it is resolved
to. A name without a meaning has no value. -/
def standsFor (scope : CalculationScope) (catalog : Catalog) (calculation : String)
    (read : Leaf Accessor → Except RunError (Option Float)) (name : String) :
    Except RunError (Option Float) :=
  match scope.leaf? catalog calculation name with
  | .ok (some leaf) => read leaf
  | _ => .ok none

/-- Whether a name is refused, and why: its field cannot be read in the mode of the report, or the
name has no meaning and may not be taken for zero. -/
def Refuses (scope : CalculationScope) (catalog : Catalog) (calculation name : String)
    (error : PlanError) : Prop :=
  scope.leaf? catalog calculation name = .error error ∨
    scope.leaf? catalog calculation name = .ok none ∧ scope.policy = .reject ∧
      error = .unknownReference name

variable {scope : CalculationScope} {catalog : Catalog} {calculation : String}

theorem result_resolve (name : String) :
    (scope.resolve catalog calculation name).result =
      scope.leaf? catalog calculation name >>= fun meaning =>
        match meaning, scope.policy with
        | some leaf, _ => .ok (.ref leaf)
        | none, .reject => .error (.unknownReference name)
        | none, .zero => .ok (.number 0) := by
  unfold resolve
  rw [Traced.result_bind, Traced.result_ofExcept]
  congr 1
  funext meaning
  cases meaning with
  | some leaf => rfl
  | none => cases scope.policy <;> rfl

theorem resolve_eq_error {name : String} {error : PlanError} :
    (scope.resolve catalog calculation name).result = .error error ↔
      scope.Refuses catalog calculation name error := by
  rw [result_resolve, Refuses]
  rcases scope.leaf? catalog calculation name with fault | (_ | leaf)
  · simp [bind, Except.bind]
  · cases scope.policy <;> simp [bind, Except.bind, eq_comm]
  · simp [bind, Except.bind]

theorem eval_of_resolve {name : String} {part : Formula}
    (resolved : (scope.resolve catalog calculation name).result = .ok part)
    (read : Leaf Accessor → Except RunError (Option Float)) :
    part.eval read = (Expression.ref name).eval (scope.standsFor catalog calculation read) := by
  rw [result_resolve] at resolved
  obtain ⟨meaning, found, resolved⟩ := bind_eq_ok.mp resolved
  rw [Expression.eval, standsFor, found]
  cases meaning with
  | some leaf =>
    cases resolved
    rfl
  | none =>
    cases policy : scope.policy <;> rw [policy] at resolved <;> cases resolved
    rfl

/-- The two ways in which a calculation gets no formula: its source is no expression, or one of its
names is refused, and then the first such name is reported. -/
theorem formula_eq_error {source : String} {error : PlanError} :
    (scope.formula catalog calculation source).result = .error error ↔
      (∃ fault, Expression.parse source = .error fault ∧
        error = .invalidExpression source fault.message) ∨
      ∃ tree before name after, Expression.parse source = .ok tree ∧
        tree.leaves = before ++ name :: after ∧
        (∀ earlier ∈ before, ∀ reason, ¬ scope.Refuses catalog calculation earlier reason) ∧
        scope.Refuses catalog calculation name error := by
  have accepts (name : String) :
      (∃ part, (scope.resolve catalog calculation name).result = .ok part) ↔
        ∀ reason, ¬ scope.Refuses catalog calculation name reason := by
    simp only [← resolve_eq_error]
    cases (scope.resolve catalog calculation name).result <;> simp
  unfold formula
  rw [Traced.result_bind, Traced.result_ofExcept, parseFormula]
  cases parsed : Expression.parse source with
  | error fault =>
    constructor
    · intro failed
      cases failed
      exact Or.inl ⟨fault, rfl, rfl⟩
    · rintro (⟨_, same, rfl⟩ | ⟨_, _, _, _, impossible, _⟩)
      · cases same
        rfl
      · cases impossible
  | ok tree =>
    change (tree.substitute (scope.resolve catalog calculation)).result = .error error ↔ _
    rw [Expression.result_substitute, Expression.substitute_eq_error, mapM_eq_error]
    simp only [accepts, resolve_eq_error]
    constructor
    · rintro ⟨before, name, after, split, earlier, refused⟩
      exact Or.inr ⟨tree, before, name, after, rfl, split, earlier, refused⟩
    · rintro (⟨_, impossible, _⟩ | ⟨_, before, name, after, same, split, earlier, refused⟩)
      · cases impossible
      · cases same
        exact ⟨before, name, after, split, earlier, refused⟩

/-- A calculation that is planned has the meaning of its source over every input, and it is not planned
just when its source is no expression or names something that is refused. -/
theorem eval_formula_eq_interpret (scope : CalculationScope) (catalog : Catalog)
    (calculation source : String) :
    (∀ formula, (scope.formula catalog calculation source).result = .ok formula →
      ∃ tree, Expression.parse source = .ok tree ∧
        ∀ read : Leaf Accessor → Except RunError (Option Float),
          formula.eval read = tree.interpret (scope.standsFor catalog calculation read)) ∧
    ∀ error, (scope.formula catalog calculation source).result = .error error ↔
      (∃ fault, Expression.parse source = .error fault ∧
        error = .invalidExpression source fault.message) ∨
      ∃ tree before name after, Expression.parse source = .ok tree ∧
        tree.leaves = before ++ name :: after ∧
        (∀ earlier ∈ before, ∀ reason, ¬ scope.Refuses catalog calculation earlier reason) ∧
        scope.Refuses catalog calculation name error := by
  refine ⟨?_, fun error => formula_eq_error⟩
  intro formula lowered
  unfold CalculationScope.formula at lowered
  rw [Traced.result_bind, Traced.result_ofExcept] at lowered
  obtain ⟨tree, parsed, lowered⟩ := bind_eq_ok.mp lowered
  rw [Expression.result_substitute] at lowered
  refine ⟨tree, mapError_eq_ok.mp parsed, fun read => ?_⟩
  rw [← Expression.eval_eq_interpret]
  exact Expression.eval_substitute (fun _ _ resolved => eval_of_resolve resolved read) lowered

/-- Calculations over the sums of two fields, in which no name is taken for zero. -/
def sumsScope : CalculationScope where
  mode := .aggregateThenCalculate
  aggregates := [⟨"w", "Weight", "Weight_sum"⟩, ⟨"n", "Fish", "Fish_sum"⟩]
  grouping := []
  policy := .reject

/-- A divisor without a number counts as zero, and of two names without a meaning the first is
reported. -/
theorem eval_formula_eq_interpret_ratio :
    (∃ formula, (sumsScope.formula [] "Mean" "Weight / [Fish]").result = .ok formula ∧
      formula.eval (ResultRow.leaf [("Weight_sum", .number 6), ("Fish_sum", .missing)]) =
        .ok none ∧
      formula.eval (ResultRow.leaf [("Weight_sum", .number 6), ("Fish_sum", .number 4)]) =
        .ok (some 1.5)) ∧
      (sumsScope.formula [] "Mean" "Weight / (Fsh + Wieght)").result =
        .error (.unknownReference "Fsh") := by
  obtain ⟨means, _⟩ := eval_formula_eq_interpret sumsScope [] "Mean" "Weight / [Fish]"
  obtain ⟨_, fails⟩ := eval_formula_eq_interpret sumsScope [] "Mean" "Weight / (Fsh + Wieght)"
  constructor
  · have lowered : (sumsScope.formula [] "Mean" "Weight / [Fish]").result = .ok (.binary .div
        (.ref (.aggregate "Weight_sum")) (.ref (.aggregate "Fish_sum"))) := by decide +kernel
    obtain ⟨tree, parsed, same⟩ := means _ lowered
    have source : Expression.parse "Weight / [Fish]" =
        .ok (.binary .div (.ref "Weight") (.ref "Fish")) := by decide +kernel
    rw [source] at parsed
    cases parsed
    refine ⟨_, lowered, ?_, ?_⟩
    · rw [same]
      decide +kernel
    · rw [same]
      decide +kernel
  · refine (fails _).mpr (Or.inr ⟨.binary .div (.ref "Weight") (.binary .add (.ref "Fsh")
      (.ref "Wieght")), ["Weight"], "Fsh", ["Wieght"], by decide +kernel, rfl, ?_,
        Or.inr ⟨rfl, rfl, rfl⟩⟩)
    intro earlier inside reason refused
    rw [List.mem_singleton.mp inside] at refused
    rcases refused with impossible | ⟨impossible, _⟩ <;> cases impossible

end CalculationScope

end FormReport
