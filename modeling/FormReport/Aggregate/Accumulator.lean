import FormReport.Cell.Basic
import FormReport.Report

set_option autoImplicit false

namespace FormReport

/-- The running state of one aggregate within one group. -/
structure Accumulator where
  function : AggregateFunction
  count : Nat
  sum : Float
  least : Float
  greatest : Float

namespace Accumulator

def new (function : AggregateFunction) : Accumulator where
  function := function
  count := 0
  sum := 0
  least := Number.infinity
  greatest := -Number.infinity

/-- Takes in a number. Of equal numbers the last is kept as the least and as the greatest, which only
the sign of a zero can show. -/
def pushNumber (state : Accumulator) (value : Float) : Accumulator :=
  { state with
    count := state.count + 1
    sum := state.sum + value
    least := if value ≤ state.least then value else state.least
    greatest := if state.greatest ≤ value then value else state.greatest }

/-- COUNT counts the cells that are not blank; the other functions take in the cells that are
numbers. -/
def push (state : Accumulator) (cell : Cell) : Accumulator :=
  match state.function with
  | .count => if cell.isBlank then state else { state with count := state.count + 1 }
  | _ =>
    match cell.number? with
    | some value => state.pushNumber value
    | none => state

/-- The value of the aggregate; zero if nothing was taken in. -/
def finish (state : Accumulator) (rounds : Bool) : Float :=
  if state.count = 0 then 0
  else
    match state.function with
    | .sum => if rounds then Number.roundHalfAway state.sum else state.sum
    | .avg => state.sum / Float.ofNat state.count
    | .count => Float.ofNat state.count
    | .max => state.greatest
    | .min => state.least

end Accumulator

end FormReport
