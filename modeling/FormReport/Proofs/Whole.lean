import FormReport.Proofs.Encoding
import Mathlib.Tactic.IntervalCases

set_option autoImplicit false

/- Rounding gives whole numbers. It works on the encoding, where it leaves no bit of the significand
below the point, whether the carry reaches the exponent or not. -/
namespace FormReport.Number

open Float.Model (Format)
open Float.Model.UnpackedFloat

/-- A sign, an exponent field and a fraction put side by side are the fields of what they make. -/
theorem fields_of_parts (sign : ℕ) {biased fraction : ℕ} (exponent : biased < 2 ^ 11)
    (small : fraction < 2 ^ 52) :
    exponentField (sign * 2 ^ 63 + (biased * 2 ^ 52 + fraction)) = biased ∧
      fractionField (sign * 2 ^ 63 + (biased * 2 ^ 52 + fraction)) = fraction := by
  unfold exponentField fractionField
  rw [Nat.shiftRight_eq_div_pow, Nat.shiftLeft_eq, Nat.shiftLeft_eq]
  omega

/-- Bits that are not those of NaN or an infinity are the encoding of what they denote. -/
theorem toBits_ofBits {bits : UInt64} (finite : exponentField bits.toNat ≠ 2047) :
    (Float.ofBits bits).toBits = bits := by
  let encoding : BitVec Format.binary64.numBits := bits.toBitVec
  have free : unpackExponent encoding ≠ -1#_ := by
    intro full
    have field := toNat_unpackExponent encoding
    rw [full] at field
    exact finite field.symm
  have valid : Format.binary64.Valid encoding := ⟨fun full => absurd full free⟩
  let x : Float := .ofModel ⟨bits, valid⟩
  have same : Float.ofBits x.toBits = x := by
    have finite : x.isFinite = true := isFinite_iff.mpr finite
    change Float.ofModel (Float.Model.pack x.toModel.unpack) = x
    rw [unpack_eq finite]
    exact toFloat_ofFloat finite
  change (Float.ofBits x.toBits).toBits = x.toBits
  rw [same]

theorem Binary.exists_integer? {value : Binary}
    (whole : value.exponent < 0 → 2 ^ (-value.exponent).toNat ∣ value.significand) :
    ∃ found, value.integer? = some found := by
  unfold Binary.integer?
  dsimp only
  by_cases natural : 0 ≤ value.exponent
  · rw [if_pos natural]
    exact ⟨_, Option.map_eq_some_iff.mpr ⟨_, Option.bind_eq_some_iff.mpr ⟨_, rfl, rfl⟩, rfl⟩⟩
  · have divides := Nat.mod_eq_zero_of_dvd (whole (Int.not_le.mp natural))
    rw [if_neg natural, Nat.one_shiftLeft, if_pos divides]
    exact ⟨_, Option.map_eq_some_iff.mpr ⟨_, Option.bind_eq_some_iff.mpr ⟨_, rfl, rfl⟩, rfl⟩⟩

/-- A normal number is whole where the bits of its significand below the point are zero. -/
theorem exists_integer?_of_dvd {x : Float} (finite : x.isFinite = true)
    (normal : exponentField x.toBits.toNat ≠ 0)
    (whole : 2 ^ (1075 - exponentField x.toBits.toNat) ∣ fractionField x.toBits.toNat + 2 ^ 52) :
    ∃ value, integer? x = some value := by
  have unit : 1 <<< 52 = 2 ^ 52 := rfl
  have significand : (Binary.ofFloat x).significand = fractionField x.toBits.toNat + 2 ^ 52 := by
    simp only [Binary.ofFloat, normal, ↓reduceIte, unit]
  have exponent : (Binary.ofFloat x).exponent = (exponentField x.toBits.toNat : ℤ) - 1075 := by
    simp only [Binary.ofFloat]
    omega
  rw [integer?, if_pos finite]
  refine Binary.exists_integer? fun fraction => ?_
  have places : (-(Binary.ofFloat x).exponent).toNat = 1075 - exponentField x.toBits.toNat := by
    omega
  rw [places, significand]
  exact whole

/-- The same of a number that is given by its bits. -/
theorem exists_integer?_ofBits {bits : UInt64} (normal : exponentField bits.toNat ≠ 0)
    (free : exponentField bits.toNat ≠ 2047)
    (whole : 2 ^ (1075 - exponentField bits.toNat) ∣ fractionField bits.toNat + 2 ^ 52) :
    ∃ value, integer? (Float.ofBits bits) = some value := by
  have encoded := toBits_ofBits free
  have finite : (Float.ofBits bits).isFinite = true := by
    rw [isFinite_iff]
    change exponentField (Float.ofBits bits).toBits.toNat ≠ 2047
    rwa [encoded]
  rw [← encoded] at normal whole
  exact exists_integer?_of_dvd finite normal whole

/-- Rounding off places of the fraction gives a multiple of their unit above the least number of that
exponent, at most the least of the next. -/
theorem roundBits_eq (biased : ℕ) {fraction places : ℕ} (small : fraction < 2 ^ 52)
    (some : places ≠ 0) (most : places ≤ 52) :
    ∃ steps ≤ 2 ^ (52 - places),
      roundBits (biased * 2 ^ 52 + fraction) places = biased * 2 ^ 52 + steps * 2 ^ places := by
  have unit : 2 ^ 52 = 2 ^ (52 - places) * 2 ^ places := by
    rw [← Nat.pow_add, Nat.sub_add_cancel most]
  have half : 2 ^ places = 2 * 2 ^ (places - 1) := by
    rw [← Nat.pow_succ', Nat.succ_eq_add_one, Nat.sub_add_cancel (Nat.pos_of_ne_zero some)]
  have positive : 0 < 2 ^ places := Nat.two_pow_pos places
  refine ⟨(fraction + 2 ^ (places - 1)) / 2 ^ places, ?_, ?_⟩
  · rw [← Nat.lt_succ_iff, Nat.div_lt_iff_lt_mul positive, Nat.succ_eq_add_one, Nat.add_mul,
      ← unit, Nat.one_mul]
    omega
  · unfold roundBits
    rw [Nat.shiftLeft_eq, Nat.shiftRight_eq_div_pow, Nat.one_shiftLeft, unit, ← Nat.mul_assoc,
      Nat.add_assoc, Nat.add_comm (biased * _ * _), Nat.add_mul_div_right _ _ positive,
      Nat.add_mul]
    omega

/-- A multiple of the unit at the point is whole, the least number of the next exponent included. -/
theorem exists_integer?_of_steps {sign biased steps : ℕ} (one : sign < 2) (least : 1023 ≤ biased)
    (most : biased < 1075) (bound : steps ≤ 2 ^ (52 - (1075 - biased))) :
    ∃ value, integer? (Float.ofBits (UInt64.ofNat
      (sign * 2 ^ 63 + (biased * 2 ^ 52 + steps * 2 ^ (1075 - biased))))) = some value := by
  have unit : 2 ^ 52 = 2 ^ (52 - (1075 - biased)) * 2 ^ (1075 - biased) := by
    rw [← Nat.pow_add, Nat.sub_add_cancel (by omega)]
  have upTo : steps * 2 ^ (1075 - biased) ≤ 2 ^ 52 := by
    rw [unit]
    exact Nat.mul_le_mul_right _ bound
  have bits : (UInt64.ofNat
      (sign * 2 ^ 63 + (biased * 2 ^ 52 + steps * 2 ^ (1075 - biased)))).toNat =
        sign * 2 ^ 63 + (biased * 2 ^ 52 + steps * 2 ^ (1075 - biased)) := by
    apply UInt64.toNat_ofNat_of_lt'
    change _ < 2 ^ 64
    omega
  rcases Nat.lt_or_eq_of_le upTo with within | carry
  · obtain ⟨exponent, fraction⟩ := fields_of_parts sign (show biased < 2 ^ 11 by omega) within
    rw [← bits] at exponent fraction
    apply exists_integer?_ofBits
    · omega
    · omega
    · rw [exponent, fraction]
      exact Nat.dvd_add (Nat.dvd_mul_left _ _) (Nat.pow_dvd_pow 2 (by omega))
  · -- The carry has reached the exponent and left nothing of the fraction.
    obtain ⟨exponent, fraction⟩ := fields_of_parts sign (show biased + 1 < 2 ^ 11 by omega)
      (show 0 < 2 ^ 52 by decide)
    have whole : sign * 2 ^ 63 + (biased * 2 ^ 52 + steps * 2 ^ (1075 - biased)) =
        sign * 2 ^ 63 + ((biased + 1) * 2 ^ 52 + 0) := by omega
    rw [← whole, ← bits] at exponent fraction
    apply exists_integer?_ofBits
    · omega
    · omega
    · rw [exponent, fraction, Nat.zero_add]
      exact Nat.pow_dvd_pow 2 (by omega)

/-- Rounded finite numbers are whole. -/
theorem exists_integer?_roundHalfAway {x : Float} (finite : x.isFinite = true) :
    ∃ value, integer? (roundHalfAway x) = some value := by
  have free : exponentField x.toBits.toNat ≠ 2047 := isFinite_iff.mp finite
  have bound : x.toBits.toNat < 2 ^ 64 := x.toBits.toBitVec.isLt
  have fraction := fractionField_lt x.toBits.toNat
  have sign : x.toBits.toNat >>> 63 < 2 := by
    rw [Nat.shiftRight_eq_div_pow]
    omega
  unfold roundHalfAway
  dsimp only
  split
  · -- What is below a half becomes a zero of its sign.
    interval_cases x.toBits.toNat >>> 63 <;> exact ⟨0, by decide +kernel⟩
  · rename_i half
    split
    · interval_cases x.toBits.toNat >>> 63
      · exact ⟨1, by decide +kernel⟩
      · exact ⟨-1, by decide +kernel⟩
    · rename_i one
      split
      · rename_i fractional
        have magnitude : x.toBits.toNat % (1 <<< 63) =
            exponentField x.toBits.toNat * 2 ^ 52 + fractionField x.toBits.toNat := by
          unfold exponentField fractionField
          rw [Nat.shiftRight_eq_div_pow, Nat.shiftLeft_eq, Nat.shiftLeft_eq, Nat.shiftLeft_eq]
          omega
        have some : 1075 - exponentField x.toBits.toNat ≠ 0 := by omega
        have all : 1075 - exponentField x.toBits.toNat ≤ 52 := by omega
        obtain ⟨steps, most, rounded⟩ :=
          roundBits_eq (exponentField x.toBits.toNat) fraction some all
        rw [magnitude, rounded, Nat.shiftLeft_eq]
        exact exists_integer?_of_steps sign (by omega) fractional most
      · rename_i large
        refine exists_integer?_of_dvd finite (by omega) ?_
        rw [Nat.sub_eq_zero_of_le (Nat.not_lt.mp large)]
        exact Nat.one_dvd _

end FormReport.Number
