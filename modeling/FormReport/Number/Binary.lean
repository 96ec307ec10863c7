set_option autoImplicit false

/- A double as a sign, a whole significand and a power of two. Everything exact about a number
(its integer value, its order, its rounding, its decimal digits) is read off these three. -/
namespace FormReport.Number

/-- The finite value `± significand * 2 ^ exponent`. -/
structure Binary where
  negative : Bool
  significand : Nat
  exponent : Int
  deriving DecidableEq

/-- The fraction field of an encoded double. -/
def fractionField (bits : Nat) : Nat := bits % (1 <<< 52)

/-- The biased exponent field of an encoded double. -/
def exponentField (bits : Nat) : Nat := (bits >>> 52) % (1 <<< 11)

/-- The fields of the encoding. NaN and the infinities denote no such value: test for them first. -/
def Binary.ofFloat (x : Float) : Binary :=
  let bits := x.toBits.toNat
  let biased := exponentField bits
  { negative := 1 <<< 63 ≤ bits
    significand := if biased = 0 then fractionField bits else fractionField bits + (1 <<< 52)
    exponent := (max biased 1 : Nat) - 1075 }

/-- The integer that the value is, if it is one. -/
def Binary.integer? (value : Binary) : Option Int :=
  let magnitude : Option Nat :=
    if 0 ≤ value.exponent then some (value.significand <<< value.exponent.toNat)
    else
      let scale := 1 <<< (-value.exponent).toNat
      if value.significand % scale = 0 then some (value.significand / scale) else none
  magnitude.map fun whole => if value.negative then -(whole : Int) else whole

/-- The integer that a double is, if it is one. Both zeros are the integer zero. -/
def integer? (x : Float) : Option Int :=
  if x.isFinite then (Binary.ofFloat x).integer? else none

/-- The integer that a double is, below nine quadrillion in magnitude: the integers written
without a fraction. -/
def plainInteger? (x : Float) : Option Int :=
  (integer? x).filter fun whole => whole.natAbs < 9000000000000000

/-- The place of a double in the order that puts `-0.0` below `0.0` and the infinities outside all
finite values. -/
def orderKey (x : Float) : Int :=
  let bits := x.toBits.toNat
  if bits < 1 <<< 63 then bits else -((bits : Int) - (1 <<< 63 : Nat)) - 1

/-- The order of doubles by `orderKey`. -/
def order (x y : Float) : Ordering := compare (orderKey x) (orderKey y)

/-- Drops the lowest `places` bits of a magnitude after rounding it, halves upward. -/
def roundBits (magnitude places : Nat) : Nat :=
  ((magnitude + (1 <<< (places - 1))) >>> places) <<< places

/-- The nearest integer, halves away from zero. The rounding is done on the encoding, where a carry
out of the fraction moves to the next exponent by itself. -/
def roundHalfAway (x : Float) : Float :=
  let bits := x.toBits.toNat
  let sign := (bits >>> 63) <<< 63
  let magnitude := bits % (1 <<< 63)
  let biased := exponentField bits
  if biased < 1022 then Float.ofBits (UInt64.ofNat sign)
  else if biased = 1022 then Float.ofBits (UInt64.ofNat (sign + (1023 <<< 52)))
  else if biased < 1075 then
    Float.ofBits (UInt64.ofNat (sign + roundBits magnitude (1075 - biased)))
  else x

end FormReport.Number
