import FormReport.Number.Binary

set_option autoImplicit false

/- The fewest decimal digits that read back to a double, found by exact arithmetic on naturals. A
double stands for the reals between the midpoints to its two neighbours; the ends belong to it when
its significand is even. -/
namespace FormReport.Number

/-- `digits * 10 ^ exponent`. -/
structure Decimal where
  digits : Nat
  exponent : Int
  deriving DecidableEq

/-- Which of two equally near decimals is taken. -/
inductive Tie where
  | even
  | upward
  deriving DecidableEq

/-- Four times the value and the two ends of its interval, over a common power of two. -/
structure Interval where
  lower : Nat
  value : Nat
  upper : Nat
  exponent : Int
  closed : Bool

/-- The gap below a power of two is half the gap above it, except at the least normal number. -/
def Interval.ofBinary (value : Binary) : Interval :=
  let narrow := value.significand = 1 <<< 52 ∧ -1074 < value.exponent
  { lower := 4 * value.significand - if narrow then 1 else 2
    value := 4 * value.significand
    upper := 4 * value.significand + 2
    exponent := value.exponent - 2
    closed := value.significand % 2 = 0 }

/-- `2 ^ exponent / 10 ^ power` as a numerator and a denominator. -/
def scale (exponent power : Int) : Nat × Nat :=
  (Nat.pow 10 (-power).toNat <<< exponent.toNat, Nat.pow 10 power.toNat <<< (-exponent).toNat)

/-- Whether `candidate * 10 ^ power` lies in the interval. -/
def Interval.contains (interval : Interval) (candidate : Nat) (power : Int) : Bool :=
  let (numerator, denominator) := scale interval.exponent power
  let point := candidate * denominator
  let lower := interval.lower * numerator
  let upper := interval.upper * numerator
  if interval.closed then lower ≤ point ∧ point ≤ upper else lower < point ∧ point < upper

/-- The number of decimal digits of a natural; zero has none. -/
def digitCount (n : Nat) : Nat := if n = 0 then 0 else (Nat.toDigits 10 n).length

/-- The least `k` with `value < 10 ^ k`. -/
def Interval.magnitude (interval : Interval) : Int :=
  let (factor, denominator) := scale interval.exponent 0
  let numerator := interval.value * factor
  if denominator ≤ numerator then digitCount (numerator / denominator)
  else 1 - (digitCount ((denominator - 1) / numerator) : Int)

/-- The nearer of the two neighbours of the value on the grid `10 ^ power` that lie in the
interval. -/
def Interval.onGrid? (interval : Interval) (tie : Tie) (power : Int) : Option Decimal :=
  let (numerator, denominator) := scale interval.exponent power
  let below := interval.value * numerator / denominator
  let takeBelow : Decimal := ⟨below, power⟩
  let takeAbove : Decimal := ⟨below + 1, power⟩
  match interval.contains below power, interval.contains (below + 1) power with
  | true, false => some takeBelow
  | false, true => some takeAbove
  | false, false => none
  | true, true =>
    match compare (2 * interval.value * numerator) ((2 * below + 1) * denominator) with
    | .lt => some takeBelow
    | .gt => some takeAbove
    | .eq => if tie = .even ∧ below % 2 = 0 then some takeBelow else some takeAbove

/-- Moves trailing zeros of the digits into the exponent. -/
def Decimal.strip (decimal : Decimal) : Decimal :=
  if decimal.digits = 0 then ⟨0, 0⟩
  else if decimal.digits % 10 = 0 then Decimal.strip ⟨decimal.digits / 10, decimal.exponent + 1⟩
  else decimal
termination_by decimal.digits
decreasing_by exact Nat.div_lt_self (by omega) (by omega)

/-- The value itself as a decimal. -/
def Binary.exactDecimal (value : Binary) : Decimal :=
  if 0 ≤ value.exponent then ⟨value.significand <<< value.exponent.toNat, 0⟩
  else ⟨value.significand * Nat.pow 5 (-value.exponent).toNat, value.exponent⟩

/-- The shortest decimal in the interval of a value, the nearest to it among those. The coarsest
grid with a hit wins; no double needs more than seventeen digits. -/
def Binary.shortest (value : Binary) (tie : Tie) : Decimal :=
  if value.significand = 0 then ⟨0, 0⟩
  else
    let interval := Interval.ofBinary value
    let magnitude := interval.magnitude
    let found := (List.range 17).findSome? fun count =>
      interval.onGrid? tie (magnitude - (count + 1 : Nat))
    (found.getD value.exactDecimal).strip

end FormReport.Number
