import FormReport.Proofs.Nearest
import Mathlib.Tactic.LinearCombination

set_option autoImplicit false

/- The digits that are written for a double are near it: whichever grid they are found on, they lie
between the midpoints to the neighbours of the double. -/
namespace FormReport.Number

/-- The number that a decimal stands for. -/
def Decimal.size (decimal : Decimal) : ℚ := decimal.digits * 10 ^ decimal.exponent

/-- The two parts of a scale are in the ratio of the powers of two and ten. -/
theorem scale_ratio (exponent power : ℤ) :
    0 < (scale exponent power).2 ∧
      ((scale exponent power).1 : ℚ) * 10 ^ power = (scale exponent power).2 * 2 ^ exponent := by
  have part (base : ℚ) (nonzero : base ≠ 0) (power : ℤ) :
      base ^ (-power).toNat * base ^ power = base ^ power.toNat := by
    rw [← zpow_natCast, ← zpow_natCast, ← zpow_add₀ nonzero]
    congr 1
    omega
  simp only [scale, Nat.shiftLeft_eq]
  refine ⟨Nat.mul_pos (Nat.pow_pos (by decide)) (by positivity), ?_⟩
  have ten := part 10 (by norm_num) power
  have two := part 2 two_ne_zero exponent
  simp only [Nat.pow_eq]
  push_cast
  calc (10 : ℚ) ^ (-power).toNat * 2 ^ exponent.toNat * 10 ^ power =
        10 ^ (-power).toNat * 10 ^ power * 2 ^ exponent.toNat := by ring
    _ = 10 ^ power.toNat * 2 ^ (-exponent).toNat * 2 ^ exponent := by
        rw [ten, ← two, mul_assoc]

/-- Two whole numbers compare over the scale as they do over the powers. -/
theorem scaled_le_iff (exponent power : ℤ) (mantissa candidate : ℕ) :
    (mantissa * (scale exponent power).1 ≤ candidate * (scale exponent power).2 ↔
      (mantissa : ℚ) * 2 ^ exponent ≤ candidate * 10 ^ power) ∧
    (candidate * (scale exponent power).2 ≤ mantissa * (scale exponent power).1 ↔
      (candidate : ℚ) * 10 ^ power ≤ mantissa * 2 ^ exponent) := by
  obtain ⟨positive, ratio⟩ := scale_ratio exponent power
  generalize (scale exponent power).1 = numerator at *
  generalize (scale exponent power).2 = denominator at *
  have positive : (0 : ℚ) < denominator := by exact_mod_cast positive
  have tens : (0 : ℚ) < 10 ^ power := by positivity
  have left : (mantissa * numerator : ℕ) * (10 : ℚ) ^ power =
      mantissa * 2 ^ exponent * denominator := by
    push_cast
    linear_combination (mantissa : ℚ) * ratio
  have right : (candidate * denominator : ℕ) * (10 : ℚ) ^ power =
      candidate * 10 ^ power * denominator := by
    push_cast
    ring
  constructor <;>
    rw [← Nat.cast_le (α := ℚ), ← mul_le_mul_iff_left₀ tens, left, right,
      mul_le_mul_iff_left₀ positive]

theorem contains_iff (interval : Interval) (candidate : ℕ) (power : ℤ) :
    interval.contains candidate power = true ↔ interval.Holds (candidate * 10 ^ power) := by
  have lower := scaled_le_iff interval.exponent power interval.lower candidate
  have upper := scaled_le_iff interval.exponent power interval.upper candidate
  unfold Interval.contains Interval.Holds
  dsimp only
  split <;> rw [decide_eq_true_eq]
  · rw [lower.1, upper.2]
  · rw [← Nat.not_le, ← Nat.not_le, lower.2, upper.1, not_le, not_le]

/-- What is found on a grid is in the interval. -/
theorem holds_onGrid {interval : Interval} {tie : Tie} {power : ℤ} {found : Decimal}
    (hit : interval.onGrid? tie power = some found) : interval.Holds found.size := by
  unfold Interval.onGrid? at hit
  dsimp only at hit
  have held (candidate : ℕ) (inside : interval.contains candidate power = true) :
      interval.Holds (Decimal.size ⟨candidate, power⟩) := (contains_iff ..).mp inside
  split at hit
  · rename_i inside _
    cases hit
    exact held _ inside
  · rename_i _ inside
    cases hit
    exact held _ inside
  · cases hit
  · rename_i below above
    split at hit
    · cases hit
      exact held _ below
    · cases hit
      exact held _ above
    · split at hit <;> cases hit
      · exact held _ below
      · exact held _ above

/-- Zeros at the end are of no account. -/
theorem size_strip (decimal : Decimal) : decimal.strip.size = decimal.size := by
  induction decimal using Decimal.strip.induct with
  | case1 decimal none => simp [Decimal.strip, Decimal.size, none]
  | case2 decimal some round ih =>
    rw [Decimal.strip, if_neg some, if_pos round, ih]
    have tens : (decimal.digits : ℚ) = 10 * (decimal.digits / 10 : ℕ) := by
      exact_mod_cast (Nat.mul_div_cancel' (Nat.dvd_of_mod_eq_zero round)).symm
    unfold Decimal.size
    rw [tens, zpow_add₀ (by norm_num), zpow_one]
    ring
  | case3 decimal some sharp => rw [Decimal.strip, if_neg some, if_neg sharp]

theorem size_exactDecimal (value : Binary) :
    value.exactDecimal.size = value.significand * 2 ^ value.exponent := by
  unfold Binary.exactDecimal Decimal.size
  split
  · rename_i whole
    rw [Nat.shiftLeft_eq, zpow_zero, mul_one]
    push_cast
    rw [← zpow_natCast, Int.toNat_of_nonneg whole]
  · rename_i fraction
    obtain ⟨places, same⟩ : ∃ places : ℕ, value.exponent = -places :=
      ⟨(-value.exponent).toNat, by omega⟩
    simp only [same, Int.neg_neg, Int.toNat_natCast, zpow_neg, zpow_natCast, Nat.pow_eq]
    push_cast
    rw [show (10 : ℚ) = 2 * 5 by norm_num, mul_pow]
    field_simp

/-- The digits that are written for a double are near it. -/
theorem holds_shortest {value : Binary} (positive : 0 < value.significand) (tie : Tie) :
    (Interval.ofBinary value).Holds (value.shortest tie).size := by
  unfold Binary.shortest
  dsimp only
  rw [if_neg positive.ne', size_strip]
  rcases search : (List.range 17).findSome? fun count => (Interval.ofBinary value).onGrid? tie
    ((Interval.ofBinary value).magnitude - (count + 1 : ℕ)) with _ | found
  · rw [Option.getD_none, size_exactDecimal]
    exact holds_self positive
  · obtain ⟨_, _, hit⟩ := List.exists_of_findSome?_eq_some search
    exact holds_onGrid hit

end FormReport.Number
