import FormReport.Number.Reader

set_option autoImplicit false

/- Which doubles are finite: those whose exponent has a bit that is not set. A change of sign leaves the
exponent alone. -/
namespace FormReport.Number

open Float.Model (Format)
open Float.Model.UnpackedFloat

/-- Below the largest exponent a finite value is not packed as an infinite one. -/
theorem unpackExponent_pack_finite {sign : Sign} {mantissa : Nat} {exponent : Int}
    {positive : 0 < mantissa} (small : exponent + 1075 < 2047) :
    unpackExponent (pack Format.binary64 (.finite sign mantissa exponent positive)) ≠ -1#_ := by
  intro full
  unfold pack at full
  dsimp only at full
  generalize biased : (exponent + Format.binary64.exponentBias +
    Format.binary64.mantissaBitsWithoutImplicit).toNat = shifted at full
  have size : shifted < 2047 := by
    change (exponent + 1023 + 52).toNat = shifted at biased
    omega
  have within : ¬ 2 ^ Format.binary64.exponentBits ≤ shifted + 1 := by
    change ¬ 2048 ≤ shifted + 1
    omega
  rw [if_neg within] at full
  split at full
  · rw [unpackExponent_packComponents] at full
    have same := congrArg BitVec.toNat full
    rw [BitVec.toNat_ofNat] at same
    change shifted % 2048 = 2047 at same
    omega
  · rw [unpackExponent_packComponents] at full
    cases full

/-- With the full exponent field an encoding stands for no finite value, else for a zero or for a number
below the largest exponent. -/
theorem unpack_cases (word : BitVec Format.binary64.numBits) :
    (unpackExponent word = -1#_ ∧ ((∃ sign, unpack Format.binary64 word = .infinity sign) ∨
      unpack Format.binary64 word = .notANumber)) ∨
    (unpackExponent word ≠ -1#_ ∧ ((∃ sign, unpack Format.binary64 word = .zero sign) ∨
      ∃ sign mantissa exponent positive, exponent + 1075 < 2047 ∧
        unpack Format.binary64 word = .finite sign mantissa exponent positive)) := by
  generalize same : unpack Format.binary64 word = value
  unfold unpack at same
  dsimp only at same
  by_cases full : unpackExponent word = -1#_
  · rw [if_pos full] at same
    refine .inl ⟨full, ?_⟩
    split at same
    · exact .inl ⟨_, same.symm⟩
    · exact .inr same.symm
  · rw [if_neg full] at same
    refine .inr ⟨full, ?_⟩
    by_cases zero : unpackExponent word = 0#_
    · rw [if_pos zero] at same
      by_cases none : unpackMantissa word = 0#_
      · rw [dif_pos none] at same
        exact .inl ⟨_, same.symm⟩
      · rw [dif_neg none] at same
        refine .inr ⟨_, _, _, _, ?_, same.symm⟩
        rw [zero]
        decide
    · rw [if_neg zero] at same
      refine .inr ⟨_, _, _, _, ?_, same.symm⟩
      have bound : (unpackExponent word).toNat < 2048 := (unpackExponent word).isLt
      have below : (unpackExponent word).toNat ≠ 2047 := fun most =>
        full (BitVec.eq_of_toNat_eq most)
      change (unpackExponent word).toNat - (1023 + 52 : Int) + 1075 < 2047
      omega

theorem isFinite_unpack (word : BitVec Format.binary64.numBits) :
    (unpack Format.binary64 word).isFinite = true ↔ unpackExponent word ≠ -1#_ := by
  rcases unpack_cases word with ⟨full, ⟨_, same⟩ | same⟩ |
    ⟨free, ⟨_, same⟩ | ⟨_, _, _, _, _, same⟩⟩ <;> rw [same]
  · exact iff_of_false nofun (not_not_intro full)
  · exact iff_of_false nofun (not_not_intro full)
  · exact iff_of_true rfl free
  · exact iff_of_true rfl free

/-- A finite double is a zero or stands for a number with a significand. -/
theorem unpack_of_isFinite {x : Float} (finite : x.isFinite = true) :
    (∃ sign, x.toModel.unpack = .zero sign) ∨ ∃ sign mantissa exponent positive,
      x.toModel.unpack = .finite sign mantissa exponent positive := by
  let word := x.toModel.toBits.toBitVec
  rcases unpack_cases word with ⟨full, _⟩ |
    ⟨_, zero | ⟨sign, mantissa, exponent, positive, _, same⟩⟩
  · exact absurd full ((isFinite_unpack word).mp finite)
  · exact .inl zero
  · exact .inr ⟨sign, mantissa, exponent, positive, same⟩

theorem unpackExponent_pack_neg (value : Float.Model.UnpackedFloat) :
    unpackExponent (pack Format.binary64 value.neg) =
      unpackExponent (pack Format.binary64 value) := by
  unfold Float.Model.UnpackedFloat.neg pack
  cases value with
  | notANumber => rfl
  | infinity sign => simp [packedInfinity]
  | zero sign => simp [packedZero]
  | finite sign mantissa exponent positive =>
    dsimp only
    split
    · simp [packedInfinity]
    · split <;> simp

/-- Packing what was unpacked gives the full exponent just when it was there before. -/
theorem unpackExponent_pack_unpack (word : BitVec Format.binary64.numBits) :
    unpackExponent (pack Format.binary64 (unpack Format.binary64 word)) = -1#_ ↔
      unpackExponent word = -1#_ := by
  rcases unpack_cases word with ⟨full, ⟨_, same⟩ | same⟩ |
    ⟨free, ⟨_, same⟩ | ⟨_, _, _, _, small, same⟩⟩ <;> rw [same]
  · exact iff_of_true (unpackExponent_packComponents ..) full
  · exact iff_of_true rfl full
  · refine iff_of_false ?_ free
    unfold pack
    simp [packedZero]
  · exact iff_of_false (unpackExponent_pack_finite small) free

theorem isFinite_neg (x : Float) : (-x).isFinite = x.isFinite := by
  rw [Bool.eq_iff_iff]
  let word := x.toModel.toBits.toBitVec
  change (unpack Format.binary64 (pack Format.binary64 (unpack Format.binary64 word).neg)).isFinite =
    true ↔ (unpack Format.binary64 word).isFinite = true
  rw [isFinite_unpack, isFinite_unpack, unpackExponent_pack_neg, ne_eq, unpackExponent_pack_unpack]

theorem isFinite_zero : (0 : Float).isFinite = true := by decide +kernel

end FormReport.Number
