set_option autoImplicit false

/- Arithmetic expressions over leaves of any kind: names when they come from a text, places to read
from once they are resolved. -/
namespace FormReport

inductive Operator where
  | add
  | sub
  | mul
  | div
  deriving DecidableEq

/-- The value of an operator. Division by zero has none, and neither has a result that is not
finite. -/
def Operator.apply (operator : Operator) (left right : Float) : Option Float :=
  let finite (x : Float) : Option Float := if x.isFinite then some x else none
  match operator with
  | add => finite (left + right)
  | sub => finite (left - right)
  | mul => finite (left * right)
  | div => if right == 0 then none else finite (left / right)

inductive Expression (α : Type) where
  | ref (leaf : α)
  | number (value : Float)
  | neg (inner : Expression α)
  | binary (operator : Operator) (left right : Expression α)
  deriving DecidableEq

namespace Expression

variable {α β : Type}

/-- Replaces every leaf by an expression, from left to right. -/
def substitute {m : Type → Type} [Monad m] (replace : α → m (Expression β)) :
    Expression α → m (Expression β)
  | ref leaf => replace leaf
  | number value => pure (number value)
  | neg inner => do
    let inner ← inner.substitute replace
    pure (neg inner)
  | binary operator left right => do
    let left ← left.substitute replace
    let right ← right.substitute replace
    pure (binary operator left right)

/-- The value of an expression, where a leaf without a number reads as zero. Both operands are
read, the left one first, whatever the other gives. -/
def eval {ε : Type} (read : α → Except ε (Option Float)) : Expression α → Except ε (Option Float)
  | ref leaf => do
    let value ← read leaf
    pure (some (value.getD 0))
  | number value => pure (some value)
  | neg inner => do
    let value ← inner.eval read
    pure (value.map fun x => -x)
  | binary operator left right => do
    let left ← left.eval read
    let right ← right.eval read
    pure (left.bind fun x => right.bind fun y => operator.apply x y)

end Expression

end FormReport
