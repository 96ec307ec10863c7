import FormReport.Number.Layout
import FormReport.Proofs.Double
import Mathlib.Algebra.Group.Nat.Defs

set_option autoImplicit false

/- A finite double and its sign, significand and power of two are the same thing: either is found from
the other through the fields of the encoding. -/
namespace FormReport.Number

open Float.Model (Format)
open Float.Model.UnpackedFloat

/-- The encoding of a double. -/
def word (x : Float) : BitVec Format.binary64.numBits := x.toModel.toBits.toBitVec

theorem fractionField_lt (bits : Nat) : fractionField bits < 2 ^ 52 := Nat.mod_lt _ (by decide)

theorem exponentField_lt (bits : Nat) : exponentField bits < 2 ^ 11 := Nat.mod_lt _ (by decide)

/-- The three fields of an encoding. -/
theorem bits_eq (bits : Nat) (bound : bits < 2 ^ 64) :
    bits = (if 2 ^ 63 ≤ bits then 2 ^ 63 else 0) +
      (exponentField bits * 2 ^ 52 + fractionField bits) := by
  unfold exponentField fractionField
  rw [Nat.shiftRight_eq_div_pow, Nat.shiftLeft_eq, Nat.shiftLeft_eq]
  split <;> omega

theorem eq_of_word_eq {x y : Float} (same : word x = word y) : x = y := by
  obtain ⟨⟨⟨bits⟩, _⟩⟩ := x
  obtain ⟨⟨⟨_⟩, _⟩⟩ := y
  cases same
  rfl

theorem toNat_unpackMantissa (word : BitVec Format.binary64.numBits) :
    (unpackMantissa word).toNat = fractionField word.toNat := by
  simp [unpackMantissa, fractionField, BitVec.extractLsb_toNat]

theorem toNat_unpackExponent (word : BitVec Format.binary64.numBits) :
    (unpackExponent word).toNat = exponentField word.toNat := by
  simp [unpackExponent, exponentField, BitVec.extractLsb_toNat]

theorem toNat_unpackSign (word : BitVec Format.binary64.numBits) :
    (unpackSign word).toNat = word.toNat / 2 ^ 63 := by
  have bound : word.toNat < 2 ^ 64 := word.isLt
  have sign : (unpackSign word).toNat = word.toNat >>> 63 % 2 := by
    unfold unpackSign
    simp [BitVec.extractLsb_toNat]
  rw [sign, Nat.shiftRight_eq_div_pow]
  omega

theorem toNat_packComponents (sign : Sign) (exponent : BitVec 11) (mantissa : BitVec 52) :
    (packComponents Format.binary64 sign exponent mantissa).toNat =
      sign.toBitVec.toNat * 2 ^ 63 + exponent.toNat * 2 ^ 52 + mantissa.toNat := by
  change (sign.toBitVec ++ exponent ++ mantissa).toNat = _
  rw [BitVec.toNat_append, BitVec.toNat_append, ← Nat.shiftLeft_add_eq_or_of_lt mantissa.isLt,
    ← Nat.shiftLeft_add_eq_or_of_lt exponent.isLt, Nat.shiftLeft_eq, Nat.shiftLeft_eq]
  omega

namespace Binary

def sign (value : Binary) : Sign := if value.negative then .negative else .positive

/-- The value as arithmetic takes it. -/
def unpacked (value : Binary) : Float.Model.UnpackedFloat :=
  if positive : 0 < value.significand then
    .finite value.sign value.significand value.exponent positive
  else .zero value.sign

/-- Whether a value is written as doubles are: with all 53 bits of the significand, unless that takes
an exponent below the least. -/
structure IsCanonical (value : Binary) : Prop where
  below : value.significand < 2 ^ 53
  least : -1074 ≤ value.exponent
  most : value.exponent ≤ 971
  full : 2 ^ 52 ≤ value.significand ∨ value.exponent = -1074

end Binary

/-- The exponent field of a finite double is not the largest. -/
theorem isFinite_iff {x : Float} : x.isFinite = true ↔ exponentField (word x).toNat ≠ 2047 := by
  have fields : x.isFinite = true ↔ unpackExponent (word x) ≠ -1#_ := isFinite_unpack (word x)
  rw [fields, ← toNat_unpackExponent]
  exact not_congr ⟨fun full => full ▸ rfl, fun full => BitVec.eq_of_toNat_eq full⟩

theorem isCanonical_ofFloat {x : Float} (finite : x.isFinite = true) :
    (Binary.ofFloat x).IsCanonical := by
  have finite : exponentField x.toBits.toNat ≠ 2047 := isFinite_iff.mp finite
  have small := exponentField_lt x.toBits.toNat
  have fraction := fractionField_lt x.toBits.toNat
  have unit : 1 <<< 52 = 2 ^ 52 := rfl
  constructor
  · simp only [Binary.ofFloat]
    split <;> omega
  · simp only [Binary.ofFloat]
    omega
  · simp only [Binary.ofFloat]
    omega
  · simp only [Binary.ofFloat]
    split
    · right
      omega
    · left
      omega

theorem sign_ofFloat (x : Float) :
    (Binary.ofFloat x).sign = Sign.ofBitVec (unpackSign (word x)) := by
  have sign := toNat_unpackSign (word x)
  change _ = x.toBits.toNat / 2 ^ 63 at sign
  have bound : x.toBits.toNat < 2 ^ 64 := x.toBits.toBitVec.isLt
  have top : 1 <<< 63 = 2 ^ 63 := rfl
  simp only [Binary.sign, Binary.ofFloat, Sign.ofBitVec, decide_eq_true_eq, top]
  by_cases negative : 2 ^ 63 ≤ x.toBits.toNat
  · have one : unpackSign (word x) ≠ 0#1 := by
      intro zero
      rw [zero] at sign
      change 0 = _ at sign
      omega
    rw [if_pos negative, if_neg one]
  · have zero : unpackSign (word x) = 0#1 := by
      refine BitVec.eq_of_toNat_eq (sign.trans ?_)
      change _ = 0
      omega
    rw [if_neg negative, if_pos zero]

theorem toNat_append_one (mantissa : BitVec 52) :
    (1#1 ++ mantissa).toNat = mantissa.toNat + 2 ^ 52 := by
  rw [BitVec.toNat_append, ← Nat.shiftLeft_add_eq_or_of_lt mantissa.isLt, Nat.shiftLeft_eq,
    Nat.add_comm]
  rfl

/-- A finite double is taken apart into its sign, significand and power of two. -/
theorem unpack_eq {x : Float} (finite : x.isFinite = true) :
    x.toModel.unpack = (Binary.ofFloat x).unpacked := by
  have free : unpackExponent (word x) ≠ -1#_ := (isFinite_unpack (word x)).mp finite
  have mantissa : (unpackMantissa (word x)).toNat = fractionField x.toBits.toNat :=
    toNat_unpackMantissa (word x)
  have exponent : (unpackExponent (word x)).toNat = exponentField x.toBits.toNat :=
    toNat_unpackExponent (word x)
  change unpack Format.binary64 (word x) = _
  unfold unpack Binary.unpacked
  dsimp only
  rw [if_neg free, ← sign_ofFloat]
  generalize (Binary.ofFloat x).sign = sign
  by_cases zero : unpackExponent (word x) = 0#_
  · have least : exponentField x.toBits.toNat = 0 := by
      rw [← exponent, zero]
      rfl
    have significand : (Binary.ofFloat x).significand = (unpackMantissa (word x)).toNat := by
      rw [mantissa]
      simp only [Binary.ofFloat, least, ↓reduceIte]
    rw [if_pos zero]
    by_cases none : unpackMantissa (word x) = 0#_
    · rw [dif_pos none, dif_neg]
      rw [significand, none]
      decide
    · have positive : 0 < (unpackMantissa (word x)).toNat :=
        Nat.pos_of_ne_zero fun same => none (BitVec.eq_of_toNat_eq same)
      rw [dif_neg none, dif_pos (significand ▸ positive)]
      have power : ((unpackExponent (word x)).toNat : Int) -
          (Format.binary64.exponentBias + Format.binary64.mantissaBitsWithoutImplicit) + 1 =
            (Binary.ofFloat x).exponent := by
        rw [exponent, least]
        simp only [Binary.ofFloat, least]
        rfl
      congr 1
      exact significand.symm
  · have normal : exponentField x.toBits.toNat ≠ 0 := fun same =>
      zero (BitVec.eq_of_toNat_eq (exponent.trans same))
    have significand : (Binary.ofFloat x).significand =
        (1#1 ++ unpackMantissa (word x) : BitVec 53).toNat := by
      rw [toNat_append_one, mantissa]
      simp only [Binary.ofFloat, normal, ↓reduceIte]
      rfl
    have power : ((unpackExponent (word x)).toNat : Int) -
        (Format.binary64.exponentBias + Format.binary64.mantissaBitsWithoutImplicit) =
          (Binary.ofFloat x).exponent := by
      rw [exponent]
      change (exponentField x.toBits.toNat : Int) - (1023 + 52) =
        (max (exponentField x.toBits.toNat) 1 : Nat) - 1075
      omega
    have positive : 0 < (Binary.ofFloat x).significand := by
      rw [significand, toNat_append_one]
      omega
    rw [if_neg zero, dif_pos positive]
    congr 1
    exact significand.symm

/-- The double with a canonical value. -/
def Binary.toFloat (value : Binary) : Float := Float.ofModel (Float.Model.pack value.unpacked)

theorem toNat_toBitVec_sign (value : Binary) :
    value.sign.toBitVec.toNat = if value.negative then 1 else 0 := by
  unfold Binary.sign
  cases value.negative <;> rfl

/-- The bits of a canonical value: below the least normal significand the exponent field is zero, else
it takes the place of the highest bit. -/
theorem toNat_word_toFloat {value : Binary} (canonical : value.IsCanonical) :
    (word value.toFloat).toNat = (if value.negative then 2 ^ 63 else 0) +
      (if value.significand < 2 ^ 52 then value.significand
        else (value.exponent + 1075).toNat * 2 ^ 52 + (value.significand - 2 ^ 52)) := by
  obtain ⟨below, least, most, full⟩ := canonical
  have sign : value.sign.toBitVec.toNat * 2 ^ 63 = if value.negative then 2 ^ 63 else 0 := by
    rw [toNat_toBitVec_sign]
    split <;> rfl
  change (pack Format.binary64 value.unpacked).toNat = _
  unfold Binary.unpacked
  by_cases positive : 0 < value.significand
  · rw [dif_pos positive]
    have shifted : (value.exponent + Format.binary64.exponentBias +
        Format.binary64.mantissaBitsWithoutImplicit).toNat = (value.exponent + 1075).toNat := by
      change (value.exponent + 1023 + 52).toNat = _
      omega
    have small : ¬ 2 ^ Format.binary64.exponentBits ≤ (value.exponent + 1075).toNat + 1 := by
      change ¬ 2048 ≤ _
      omega
    unfold pack
    dsimp only
    rw [shifted, if_neg small]
    by_cases normal : 2 ^ 52 ≤ value.significand
    · have bits : value.significand.log2 + 1 = Format.binary64.mantissaBits := by
        rw [(Nat.log2_eq_iff (Nat.ne_of_gt positive)).mpr ⟨normal, below⟩]
        rfl
      rw [if_pos bits, toNat_packComponents, sign, if_neg (Nat.not_lt.mpr normal),
        BitVec.toNat_ofNat, BitVec.toNat_ofNat]
      omega
    · have bits : value.significand.log2 + 1 ≠ Format.binary64.mantissaBits := by
        have fewer := (Nat.log2_lt (Nat.ne_of_gt positive)).mpr (Nat.not_le.mp normal)
        change _ ≠ 53
        omega
      rw [if_neg bits, toNat_packComponents, sign, if_pos (Nat.not_le.mp normal),
        BitVec.toNat_ofNat, BitVec.toNat_ofNat]
      omega
  · rw [dif_neg positive]
    have none : value.significand = 0 := by omega
    rw [none]
    change (packComponents Format.binary64 value.sign 0#_ 0#_).toNat = _
    rw [toNat_packComponents, sign]
    rfl

/-- Putting together a double that was taken apart gives it back. -/
theorem toFloat_ofFloat {x : Float} (finite : x.isFinite = true) :
    (Binary.ofFloat x).toFloat = x := by
  apply eq_of_word_eq
  apply BitVec.eq_of_toNat_eq
  rw [toNat_word_toFloat (isCanonical_ofFloat finite)]
  change _ = x.toBits.toNat
  have bits := bits_eq x.toBits.toNat x.toBits.toBitVec.isLt
  have fraction := fractionField_lt x.toBits.toNat
  have top : 1 <<< 63 = 2 ^ 63 := rfl
  have unit : 1 <<< 52 = 2 ^ 52 := rfl
  simp only [Binary.ofFloat, decide_eq_true_eq, top, unit]
  refine Eq.trans ?_ bits.symm
  congr 1
  split
  · rename_i zero
    rw [zero]
    omega
  · rw [if_neg (by omega)]
    omega

/-- The fields of the encoding of a canonical value. -/
theorem fields_toFloat {value : Binary} (canonical : value.IsCanonical) :
    (2 ^ 63 ≤ value.toFloat.toBits.toNat ↔ value.negative = true) ∧
      exponentField value.toFloat.toBits.toNat =
        (if value.significand < 2 ^ 52 then 0 else (value.exponent + 1075).toNat) ∧
      fractionField value.toFloat.toBits.toNat =
        if value.significand < 2 ^ 52 then value.significand else value.significand - 2 ^ 52 := by
  have bits : value.toFloat.toBits.toNat = _ := toNat_word_toFloat canonical
  obtain ⟨below, least, most, full⟩ := canonical
  generalize value.toFloat.toBits.toNat = bits at *
  unfold exponentField fractionField
  rw [Nat.shiftRight_eq_div_pow, Nat.shiftLeft_eq, Nat.shiftLeft_eq]
  by_cases small : value.significand < 2 ^ 52
  · rw [if_pos small] at bits
    rw [if_pos small, if_pos small]
    split at bits <;> rename_i negative <;>
      simp only [negative, iff_true, Bool.false_eq_true, iff_false] <;> omega
  · rw [if_neg small] at bits
    rw [if_neg small, if_neg small]
    split at bits <;> rename_i negative <;>
      simp only [negative, iff_true, Bool.false_eq_true, iff_false] <;> omega

theorem isFinite_toFloat {value : Binary} (canonical : value.IsCanonical) :
    value.toFloat.isFinite = true := by
  have field : exponentField (word value.toFloat).toNat = _ := (fields_toFloat canonical).2.1
  rw [isFinite_iff, field]
  obtain ⟨_, least, most, _⟩ := canonical
  split <;> omega

/-- Taking a canonical value apart after it was put together gives it back. -/
theorem ofFloat_toFloat {value : Binary} (canonical : value.IsCanonical) :
    Binary.ofFloat value.toFloat = value := by
  obtain ⟨sign, exponent, fraction⟩ := fields_toFloat canonical
  obtain ⟨below, least, most, full⟩ := canonical
  have top : 1 <<< 63 = 2 ^ 63 := rfl
  have unit : 1 <<< 52 = 2 ^ 52 := rfl
  have negative : decide (2 ^ 63 ≤ value.toFloat.toBits.toNat) = value.negative := by
    rw [Bool.eq_iff_iff, decide_eq_true_eq, sign]
  unfold Binary.ofFloat
  dsimp only
  rw [top, unit, negative, exponent, fraction]
  obtain ⟨_, significand, power⟩ := value
  rw [Binary.mk.injEq]
  dsimp only at below least most full ⊢
  refine ⟨rfl, ?_, ?_⟩
  · split
    · rfl
    · rw [if_neg (by omega)]
      omega
  · split <;> omega

theorem unpack_toFloat {value : Binary} (canonical : value.IsCanonical) :
    value.toFloat.toModel.unpack = value.unpacked := by
  rw [unpack_eq (isFinite_toFloat canonical), ofFloat_toFloat canonical]

end FormReport.Number
