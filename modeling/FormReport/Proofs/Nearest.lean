import FormReport.Proofs.Rounding

set_option autoImplicit false

/- Decimals are read as the nearest double, whichever way they are computed: by one multiplication or
division of exact doubles while digits and power of ten are small, else over whole numbers. -/
namespace FormReport.Number

open Float.Model (Format)
open Float.Model.UnpackedFloat

/-- Whether a double is a positive value, with all bits of its significand. -/
def IsFull (x : Float) (size : ℚ) : Prop :=
  ∃ (mantissa : ℕ) (exponent : ℤ) (positive : 0 < mantissa),
    x.toModel.unpack = .finite .positive mantissa exponent positive ∧ 2 ^ 52 ≤ mantissa ∧
      size = mantissa * 2 ^ exponent

section

variable {value : Binary} (canonical : value.IsCanonical) (positive : 0 < value.significand)
  (unsigned : value.negative = false)

include unsigned positive in
theorem unpacked_eq :
    value.unpacked = .finite .positive value.significand value.exponent positive := by
  unfold Binary.unpacked Binary.sign
  rw [dif_pos positive, unsigned]
  rfl

include canonical positive unsigned

theorem mul_eq_toFloat {x y : Float} {first second : ℚ} (left : IsFull x first)
    (right : IsFull y second) (near : (Interval.ofBinary value).Holds (first * second)) :
    x * y = value.toFloat := by
  obtain ⟨mantissa, exponent, some, unpacked, full, rfl⟩ := left
  obtain ⟨another, power, more, unpackedRight, fullRight, rfl⟩ := right
  have product : ((mantissa * another : ℕ) : ℚ) * 2 ^ (exponent + power) =
      mantissa * 2 ^ exponent * (another * 2 ^ power) := by
    rw [zpow_add₀ two_ne_zero]
    push_cast
    ring
  have wide : 104 ≤ (mantissa * another).log2 := by
    rw [Nat.le_log2 (Nat.mul_pos some more).ne']
    calc 2 ^ 104 = 2 ^ 52 * 2 ^ 52 := by norm_num
      _ ≤ mantissa * another := Nat.mul_le_mul full fullRight
  rw [← product] at near
  change Float.ofModel (.pack (mul Format.binary64 x.toModel.unpack y.toModel.unpack)) = _
  rw [unpacked, unpackedRight, mul_eq canonical positive some more _ _ (by omega) near,
    Binary.toFloat, unpacked_eq positive unsigned]
  rfl

theorem div_eq_toFloat {x y : Float} {first second : ℚ} (left : IsFull x first)
    (right : IsFull y second) (near : (Interval.ofBinary value).Holds (first / second)) :
    x / y = value.toFloat := by
  obtain ⟨mantissa, exponent, some, unpacked, full, rfl⟩ := left
  obtain ⟨another, power, more, unpackedRight, fullRight, rfl⟩ := right
  change Float.ofModel (.pack (div Format.binary64 x.toModel.unpack y.toModel.unpack)) = _
  rw [unpacked, unpackedRight, div_eq canonical positive some more _ _ near, Binary.toFloat,
    unpacked_eq positive unsigned]
  rfl

end

/-- A whole number of up to 53 bits as a double has it. -/
def Binary.ofWhole (whole : ℕ) : Binary :=
  ⟨false, whole <<< (52 - whole.log2), whole.log2 - 52⟩

section

variable {whole : ℕ} (some : 0 < whole) (small : whole < 2 ^ 53)

include some small

theorem log2_le_of_lt : whole.log2 ≤ 52 := by
  have := (Nat.log2_lt some.ne').mpr small
  omega

theorem full_ofWhole : 2 ^ 52 ≤ (Binary.ofWhole whole).significand ∧
    (Binary.ofWhole whole).significand < 2 ^ 53 := by
  have bits := log2_le_of_lt some small
  have split (more : ℕ) : 2 ^ (whole.log2 + more) * 2 ^ (52 - whole.log2) = 2 ^ (52 + more) := by
    rw [← pow_add]
    congr 1
    omega
  simp only [Binary.ofWhole, Nat.shiftLeft_eq]
  constructor
  · rw [← split 0]
    exact Nat.mul_le_mul_right _ (Nat.log2_self_le some.ne')
  · rw [← split 1]
    exact Nat.mul_lt_mul_of_pos_right Nat.lt_log2_self (by positivity)

theorem isCanonical_ofWhole : (Binary.ofWhole whole).IsCanonical := by
  have bits := log2_le_of_lt some small
  obtain ⟨full, below⟩ := full_ofWhole some small
  refine ⟨below, ?_, ?_, .inl full⟩ <;> simp only [Binary.ofWhole] <;> omega

theorem size_ofWhole :
    ((Binary.ofWhole whole).significand : ℚ) * 2 ^ (Binary.ofWhole whole).exponent = whole := by
  have bits := log2_le_of_lt some small
  simp only [Binary.ofWhole, Nat.shiftLeft_eq]
  push_cast
  rw [mul_assoc, ← zpow_natCast, ← zpow_add₀ two_ne_zero,
    show ((52 - whole.log2 : ℕ) : ℤ) + (whole.log2 - 52) = 0 by omega, zpow_zero, mul_one]

/-- Whole numbers of up to 53 bits are converted without loss. -/
theorem toFloat_eq_toFloat_ofWhole :
    whole.toUInt64.toFloat = (Binary.ofWhole whole).toFloat := by
  have bits := log2_le_of_lt some small
  obtain ⟨full, below⟩ := full_ofWhole some small
  have positive : 0 < (Binary.ofWhole whole).significand := by omega
  have kept : whole.toUInt64.toNat = whole := by
    rw [Nat.toUInt64, UInt64.toNat_ofNat']
    omega
  change Float.ofModel (.pack (normalize Format.binary64 whole.toUInt64.toNat 0 .positive)) = _
  unfold Float.Model.UnpackedFloat.normalize
  rw [kept, Int.compare_eq_gt.mpr (by omega)]
  dsimp only
  unfold Float.Model.UnpackedFloat.round decreaseExponent
  rw [Int.toNat_natCast, targetExponent_totalExponent]
  have target : max ((whole.log2 : ℤ) + 0 - 52) (-1074) = whole.log2 - 52 := by omega
  have steps : (0 - ((whole.log2 : ℤ) - 52)).toNat = 52 - whole.log2 := by omega
  have power : (0 : ℤ) - (52 - whole.log2 : ℕ) = whole.log2 - 52 := by omega
  have wide : 52 ≤ (Binary.ofWhole whole).significand.log2 :=
    (Nat.le_log2 positive.ne').mpr full
  have rounded : roundWithAccuracy Format.binary64 .positive (Binary.ofWhole whole).significand
      (Binary.ofWhole whole).exponent .exact =
        .finite .positive (Binary.ofWhole whole).significand (Binary.ofWhole whole).exponent
          positive := by
    refine roundWithAccuracy_eq (isCanonical_ofWhole some small) positive ?_ (by omega)
      (holds_self positive) .positive
    rw [mul_div_cancel_right₀ _ (by positivity)]
    rfl
  dsimp only
  rw [target, steps, power, Binary.toFloat, unpacked_eq positive rfl]
  exact congrArg (fun value => Float.ofModel (Float.Model.pack value)) rounded

theorem isFull_toFloat : IsFull whole.toUInt64.toFloat whole := by
  obtain ⟨full, below⟩ := full_ofWhole some small
  have positive : 0 < (Binary.ofWhole whole).significand := by omega
  refine ⟨_, _, positive, ?_, full, (size_ofWhole some small).symm⟩
  rw [toFloat_eq_toFloat_ofWhole some small, unpack_toFloat (isCanonical_ofWhole some small)]
  exact unpacked_eq positive rfl

end

/-- Whether a double has all bits of its significand and is a power of ten. -/
def isPowerOfTen (x : Float) (power : ℕ) : Bool :=
  match x.toModel.unpack with
  | .finite .positive mantissa exponent _ =>
    decide (2 ^ 52 ≤ mantissa ∧ -52 ≤ exponent ∧
      mantissa * 2 ^ (exponent + 52).toNat = 10 ^ power * 2 ^ 52)
  | _ => false

theorem isFull_of_isPowerOfTen {x : Float} {power : ℕ} (checked : isPowerOfTen x power = true) :
    IsFull x (10 ^ power) := by
  unfold isPowerOfTen at checked
  split at checked
  · rename_i mantissa exponent positive unpacked
    obtain ⟨full, least, exact⟩ := of_decide_eq_true checked
    refine ⟨mantissa, exponent, positive, unpacked, full, ?_⟩
    have exact : (mantissa : ℚ) * 2 ^ (exponent + 52).toNat = 10 ^ power * 2 ^ 52 := by
      exact_mod_cast exact
    rw [← zpow_natCast, Int.toNat_of_nonneg (by omega), zpow_add₀ two_ne_zero, ← mul_assoc] at exact
    exact (mul_right_cancel₀ (by positivity) exact).symm
  · cases checked

/-- The table of powers of ten holds them exactly. -/
theorem isFull_exactlyRepresentablePowersOfTen (power : ℕ) (inside : power < 23) :
    IsFull Float.exactlyRepresentablePowersOfTen[power] (10 ^ power) := by
  have table : ∀ power : Fin 23,
      isPowerOfTen Float.exactlyRepresentablePowersOfTen[power] power = true := by
    decide +kernel
  exact isFull_of_isPowerOfTen (table ⟨power, inside⟩)

/-- What is near a double is within the range of doubles. -/
theorem range_of_holds {value : Binary} (canonical : value.IsCanonical)
    (positive : 0 < value.significand) {x : ℚ} (near : (Interval.ofBinary value).Holds x) :
    2 ^ (-1075 : ℤ) ≤ x ∧ x < 2 ^ (1024 : ℤ) := by
  have least := canonical.least
  have most := canonical.most
  constructor
  · have lower : ((Interval.ofBinary value).lower : ℚ) * 2 ^ (value.exponent - 2) ≤ x :=
      near.bounds.1
    have two : (2 : ℚ) ≤ (Interval.ofBinary value).lower := by
      have two : 2 ≤ (Interval.ofBinary value).lower := by
        simp only [Interval.ofBinary]
        split <;> omega
      exact_mod_cast two
    calc (2 : ℚ) ^ (-1075 : ℤ) = 2 * 2 ^ (-1076 : ℤ) := by
          rw [show (-1075 : ℤ) = 1 + -1076 by norm_num, zpow_add₀ two_ne_zero, zpow_one]
      _ ≤ 2 * 2 ^ (value.exponent - 2) :=
          mul_le_mul_of_nonneg_left (zpow_le_zpow_right₀ one_le_two (by omega)) zero_le_two
      _ ≤ (Interval.ofBinary value).lower * 2 ^ (value.exponent - 2) :=
          mul_le_mul_of_nonneg_right two (by positivity)
      _ ≤ x := lower
  · calc x < 2 ^ (53 + value.exponent) := lt_of_holds canonical positive near
      _ ≤ 2 ^ (1024 : ℤ) := zpow_le_zpow_right₀ one_le_two (by omega)

/-- Powers of ten are at least as far out as those of two. -/
theorem exponent_le_of_lt {digits : ℕ} (some : 0 < digits) {exponent bound : ℤ} (natural : 0 ≤ bound)
    (small : (digits : ℚ) * 10 ^ exponent < 2 ^ bound) : exponent ≤ bound := by
  by_contra more
  have one : (1 : ℚ) ≤ digits := by exact_mod_cast some
  have large : (2 : ℚ) ^ bound ≤ digits * 10 ^ exponent := by
    calc (2 : ℚ) ^ bound ≤ 10 ^ bound := zpow_le_zpow_left₀ natural zero_le_two (by norm_num)
      _ ≤ 10 ^ exponent := zpow_le_zpow_right₀ (by norm_num) (by omega)
      _ ≤ digits * 10 ^ exponent := le_mul_of_one_le_left (by positivity) one
  exact absurd small (not_lt.mpr large)

theorem le_exponent_of_le {digits : ℕ} {exponent bound : ℤ} (below : bound ≤ 0)
    (large : (2 : ℚ) ^ bound ≤ digits * 10 ^ exponent) : bound ≤ exponent + (digits.log2 + 1) := by
  by_contra less
  have size : (digits : ℚ) < 2 ^ ((digits.log2 : ℤ) + 1) := by
    have size : (digits : ℚ) < 2 ^ (digits.log2 + 1) := by exact_mod_cast Nat.lt_log2_self
    rwa [← zpow_natCast, Nat.cast_add, Nat.cast_one] at size
  have power : (10 : ℚ) ^ exponent ≤ 2 ^ exponent := by
    have grow : (2 : ℚ) ^ (-exponent) ≤ 10 ^ (-exponent) :=
      zpow_le_zpow_left₀ (by omega) zero_le_two (by norm_num)
    rw [zpow_neg, zpow_neg] at grow
    exact (inv_le_inv₀ (by positivity) (by positivity)).mp grow
  have small : (digits : ℚ) * 10 ^ exponent < 2 ^ bound := by
    calc (digits : ℚ) * 10 ^ exponent < 2 ^ ((digits.log2 : ℤ) + 1) * 10 ^ exponent :=
          mul_lt_mul_of_pos_right size (by positivity)
      _ ≤ 2 ^ ((digits.log2 : ℤ) + 1) * 2 ^ exponent :=
          mul_le_mul_of_nonneg_left power (by positivity)
      _ = 2 ^ ((digits.log2 : ℤ) + 1 + exponent) := (zpow_add₀ two_ne_zero ..).symm
      _ ≤ 2 ^ bound := zpow_le_zpow_right₀ one_le_two (by omega)
  exact absurd large (not_le.mpr small)

theorem pow_two_le_pow_ten {bits places : ℕ} (less : 2 ^ bits ≤ 10 ^ places) :
    (2 : ℚ) ^ (bits : ℤ) ≤ 10 ^ (places : ℤ) := by
  rw [zpow_natCast, zpow_natCast]
  exact_mod_cast less

/-- The size of a number with as many digits as are written. -/
theorem length_repr {digits : ℕ} (some : 0 < digits) :
    (10 : ℚ) ^ ((Nat.repr digits).length - 1 : ℤ) ≤ digits ∧
      (digits : ℚ) < 10 ^ ((Nat.repr digits).length : ℤ) := by
  have count : (Nat.repr digits).length = (Nat.toDigits 10 digits).length := by
    rw [← String.length_toList, Nat.toList_repr]
  rw [count]
  obtain ⟨fewer, same⟩ : ∃ fewer, (Nat.toDigits 10 digits).length = fewer + 1 :=
    ⟨_, (Nat.succ_pred (List.length_pos_iff.mpr Nat.toDigits_ne_nil).ne').symm⟩
  have most : digits < 10 ^ (fewer + 1) :=
    (Nat.length_toDigits_le_iff (by decide) (by omega)).mp same.le
  have least : 10 ^ fewer ≤ digits := by
    by_contra less
    rcases Nat.eq_zero_or_pos fewer with none | more
    · rw [none] at less
      omega
    · have := (Nat.length_toDigits_le_iff (by decide) more).mpr (not_le.mp less)
      omega
  rw [same]
  constructor
  · rw [Nat.cast_add, Nat.cast_one, add_sub_cancel_right, zpow_natCast]
    exact_mod_cast least
  · rw [zpow_natCast]
    exact_mod_cast most

section

variable {value : Binary} (canonical : value.IsCanonical) (positive : 0 < value.significand)
  (unsigned : value.negative = false) {digits : ℕ} (some : 0 < digits)

include canonical positive unsigned some

/-- The computation over whole numbers, for a power of ten that multiplies. -/
theorem mul_tens {power : ℕ} (shifted : 0 < digits <<< 53) (tens : 0 < 10 ^ power)
    (near : (Interval.ofBinary value).Holds (digits * 10 ^ (power : ℤ))) :
    mul Format.binary64 (.finite .positive (digits <<< 53) (-53) shifted)
      (.finite .positive (10 ^ power) 0 tens) = value.unpacked := by
  have wide : 53 ≤ (digits <<< 53 * 10 ^ power).log2 := by
    rw [Nat.le_log2 (Nat.mul_pos shifted tens).ne', Nat.shiftLeft_eq]
    calc 2 ^ 53 = 1 * 2 ^ 53 * 1 := by norm_num
      _ ≤ digits * 2 ^ 53 * 10 ^ power := Nat.mul_le_mul (Nat.mul_le_mul_right _ some) tens
  have same : ((digits <<< 53 * 10 ^ power : ℕ) : ℚ) * 2 ^ ((-53 : ℤ) + 0) =
      digits * 10 ^ (power : ℤ) := by
    rw [Nat.shiftLeft_eq, Int.add_zero, zpow_neg, zpow_natCast]
    push_cast
    field_simp
  rw [unpacked_eq positive unsigned]
  exact mul_eq canonical positive shifted tens .positive .positive (by omega) (same ▸ near)

/-- The same for a power of ten that divides. -/
theorem div_tens {power : ℕ} (tens : 0 < 10 ^ power)
    (near : (Interval.ofBinary value).Holds (digits * 10 ^ (-power : ℤ))) :
    div Format.binary64 (.finite .positive digits 0 some) (.finite .positive (10 ^ power) 0 tens) =
      value.unpacked := by
  have same : (digits : ℚ) * 2 ^ (0 : ℤ) / ((10 ^ power : ℕ) * 2 ^ (0 : ℤ)) =
      digits * 10 ^ (-power : ℤ) := by
    rw [zpow_neg, zpow_natCast, zpow_zero, mul_one, mul_one, div_eq_mul_inv]
    push_cast
    rfl
  rw [unpacked_eq positive unsigned]
  exact div_eq canonical positive some tens .positive .positive (same ▸ near)

theorem ofScientific_model {exponent : ℤ}
    (near : (Interval.ofBinary value).Holds (digits * 10 ^ exponent)) :
    Float.ofModel (Float.Model.ofScientific digits exponent) = value.toFloat := by
  obtain ⟨large, small⟩ := range_of_holds canonical positive near
  have notHuge : ¬ exponent > 2 ^ Format.binary64.exponentBits := by
    intro huge
    change exponent > 2048 at huge
    have := exponent_le_of_lt some (by norm_num) small
    omega
  have notTiny : ¬ exponent < -((2 ^ Format.binary64.exponentBits : ℤ) + digits.log2) := by
    intro tiny
    change exponent < -(2048 + (digits.log2 : ℤ)) at tiny
    have := le_exponent_of_le (by norm_num) large
    omega
  have computed : Float.Model.UnpackedFloat.ofScientific Format.binary64 digits exponent =
      value.unpacked := by
    unfold Float.Model.UnpackedFloat.ofScientific
    rw [dif_neg some.ne', if_neg notHuge, if_neg notTiny]
    by_cases whole : 0 ≤ exponent
    · obtain ⟨power, rfl⟩ := Int.eq_ofNat_of_zero_le whole
      rw [if_pos whole]
      exact mul_tens canonical positive unsigned some _ _ near
    · have negative : exponent = -((-exponent).toNat : ℤ) := by omega
      rw [if_neg whole]
      rw [negative] at near
      exact div_tens canonical positive unsigned some _ near
  exact congrArg (fun unpacked => Float.ofModel (Float.Model.pack unpacked)) computed

/-- Digits and a power of ten that are near a double are read as the double. -/
theorem ofScientific_eq_toFloat {exponent : ℤ}
    (near : (Interval.ofBinary value).Holds (digits * 10 ^ exponent)) :
    Float.ofScientific digits (exponent < 0) exponent.natAbs = value.toFloat := by
  unfold Float.ofScientific
  split
  · rename_i fast
    obtain ⟨small, few⟩ := fast
    have whole := isFull_toFloat some small
    have tens := isFull_exactlyRepresentablePowersOfTen exponent.natAbs (by omega)
    by_cases below : exponent < 0
    · have same : (digits : ℚ) / 10 ^ exponent.natAbs = digits * 10 ^ exponent := by
        rw [show exponent = -(exponent.natAbs : ℤ) by omega, zpow_neg, zpow_natCast, Int.natAbs_neg,
          Int.natAbs_natCast, div_eq_mul_inv]
      rw [if_pos (decide_eq_true below)]
      exact div_eq_toFloat canonical positive unsigned whole tens (same ▸ near)
    · have same : (digits : ℚ) * 10 ^ exponent.natAbs = digits * 10 ^ exponent := by
        rw [← zpow_natCast, Int.natAbs_of_nonneg (by omega)]
      rw [if_neg (by simpa using below)]
      exact mul_eq_toFloat canonical positive unsigned whole tens (same ▸ near)
  · have signed : (if decide (exponent < 0) = true then Int.negOfNat exponent.natAbs
        else Int.ofNat exponent.natAbs) = exponent := by
      rw [Int.negOfNat_eq]
      simp only [decide_eq_true_eq]
      split <;> simp only [Int.ofNat_eq_natCast] <;> omega
    simp only [signed]
    exact ofScientific_model canonical positive unsigned some near

/-- What is cut off at both ends of the range is not near any double. -/
theorem ofDecimal_eq_toFloat {exponent : ℤ}
    (near : (Interval.ofBinary value).Holds (digits * 10 ^ exponent)) :
    ofDecimal digits exponent = value.toFloat := by
  obtain ⟨large, small⟩ := range_of_holds canonical positive near
  obtain ⟨least, most⟩ := length_repr some
  have unit : (0 : ℚ) < 10 ^ exponent := by positivity
  have notTiny : ¬ exponent + (Nat.repr digits).length < -330 := by
    intro tiny
    have below : (digits : ℚ) * 10 ^ exponent < 2 ^ (-1075 : ℤ) := by
      calc (digits : ℚ) * 10 ^ exponent < 10 ^ ((Nat.repr digits).length : ℤ) * 10 ^ exponent :=
            mul_lt_mul_of_pos_right most unit
        _ = 10 ^ (exponent + (Nat.repr digits).length) := by
            rw [add_comm, zpow_add₀ (by norm_num)]
        _ ≤ 10 ^ (-331 : ℤ) := zpow_le_zpow_right₀ (by norm_num) (by omega)
        _ ≤ 2 ^ (-1075 : ℤ) := by
            rw [zpow_neg, zpow_neg]
            exact inv_anti₀ (by positivity) (pow_two_le_pow_ten (by decide +kernel))
    exact absurd large (not_le.mpr below)
  have notHuge : ¬ 310 < exponent + (Nat.repr digits).length := by
    intro huge
    have above : (2 : ℚ) ^ (1024 : ℤ) ≤ digits * 10 ^ exponent := by
      calc (2 : ℚ) ^ (1024 : ℤ) ≤ 10 ^ (310 : ℤ) := pow_two_le_pow_ten (by decide +kernel)
        _ ≤ 10 ^ ((Nat.repr digits).length - 1 + exponent : ℤ) :=
            zpow_le_zpow_right₀ (by norm_num) (by omega)
        _ = 10 ^ ((Nat.repr digits).length - 1 : ℤ) * 10 ^ exponent := zpow_add₀ (by norm_num) ..
        _ ≤ digits * 10 ^ exponent := mul_le_mul_of_nonneg_right least unit.le
    exact absurd small (not_lt.mpr above)
  unfold ofDecimal
  dsimp only
  rw [if_neg (by omega), if_neg notHuge]
  exact ofScientific_eq_toFloat canonical positive unsigned some near

end

end FormReport.Number
