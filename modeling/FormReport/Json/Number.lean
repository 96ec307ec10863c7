import FormReport.Json.Basic
import FormReport.Number.Reader

set_option autoImplicit false

/- The values of numbers in documents. The digits count as far as they fit in 64 bits, and they are
scaled by powers of ten in floating point; so a number is not always read as the double nearest to
it. -/
namespace FormReport.Json

/-- Appends digits to a natural number as long as it fits in 64 bits. The second part is how many
were appended. -/
def appendDigits (value : Nat) : List Char → Nat × Nat
  | [] => (value, 0)
  | digit :: rest =>
    let next := value * 10 + (digit.toNat - '0'.toNat)
    if next < 1 <<< 64 then ((appendDigits next rest).1, (appendDigits next rest).2 + 1)
    else (value, 0)

/-- The greatest power of ten among the doubles. -/
def greatestPower : Nat := 308

def powerOfTen (power : Nat) : Float := Float.ofScientific 1 false power

/-- A natural number of at most 64 bits times a power of ten; `none` beyond the powers of ten among
the doubles. Two divisions by the greatest of them reach down to zero. -/
def scale? (digits : Nat) (exponent : Int) : Option Float :=
  let value := Float.ofNat digits
  let size := exponent.natAbs
  if digits = 0 then some 0
  else if 0 ≤ exponent then
    if size ≤ greatestPower then some (value * powerOfTen size) else none
  else if size ≤ greatestPower then some (value / powerOfTen size)
  else if size ≤ 2 * greatestPower then
    some (value / powerOfTen greatestPower / powerOfTen (size - greatestPower))
  else some 0

/-- The double for a number without a sign; `none` beyond the doubles. Digits before the point that
do not fit count as zeros, those behind it not at all. -/
def decimal? (whole fraction : List Char) (exponent : Int) : Option Float :=
  let (digits, taken) := appendDigits 0 whole
  let (digits, places) := appendDigits digits fraction
  let dropped : Int := whole.length - taken
  (scale? digits (exponent + (dropped - places))).filter Float.isFinite

/-- The value of a number. Without fraction and exponent it is an integer if it fits in 64 bits. -/
def numberValue? (negative : Bool) (whole : List Char) (fraction : Option (List Char))
    (exponent : Option Int) : Option Json :=
  let digits := Number.digitsValue whole
  let fits := if negative then 0 < digits ∧ digits ≤ 1 <<< 63 else digits < 1 <<< 64
  if fraction.isNone ∧ exponent.isNone ∧ fits then
    some (.integer (if negative then -digits else digits))
  else
    (decimal? whole (fraction.getD []) (exponent.getD 0)).map fun magnitude =>
      .decimal (if negative then -magnitude else magnitude)

end FormReport.Json
