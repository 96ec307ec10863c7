import FormReport.Proofs.Encoding
import Mathlib.Algebra.Order.Field.Power
import Mathlib.Tactic.FieldSimp
import Mathlib.Tactic.Linarith
import Mathlib.Tactic.NormNum
import Mathlib.Tactic.Positivity
import Mathlib.Tactic.Qify
import Mathlib.Tactic.Ring

set_option autoImplicit false

/- Arithmetic on doubles rounds to nearest: a result that lies between the midpoints to the neighbours
of a double is that double. -/
namespace FormReport.Number

open Float.Model (Format totalExponent)
open Float.Model.UnpackedFloat

/-- Whether a mantissa and its two residual bits tell where a value lies: at the mantissa, before the
half way to the next one, half way, or behind. -/
def Locates : ExtendedMantissa → ℚ → Prop
  | ⟨mantissa, false, false⟩, x => x = mantissa
  | ⟨mantissa, false, true⟩, x => mantissa < x ∧ x < mantissa + 1 / 2
  | ⟨mantissa, true, false⟩, x => x = mantissa + 1 / 2
  | ⟨mantissa, true, true⟩, x => mantissa + 1 / 2 < x ∧ x < mantissa + 1

theorem Locates.floor {em : ExtendedMantissa} {x : ℚ} (located : Locates em x) :
    em.mantissa ≤ x ∧ x < em.mantissa + 1 := by
  obtain ⟨mantissa, round, sticky⟩ := em
  cases round <;> cases sticky <;> simp only [Locates] at located ⊢ <;> constructor <;> linarith

/-- A bit that is shifted out goes into the residual bits. -/
theorem Locates.shiftRightOne {em : ExtendedMantissa} {x : ℚ} (located : Locates em x) :
    Locates em.shiftRightOne (x / 2) := by
  obtain ⟨mantissa, round, sticky⟩ := em
  have split : (mantissa : ℚ) = 2 * (mantissa / 2 : ℕ) + (mantissa % 2 : ℕ) := by
    exact_mod_cast (Nat.div_add_mod mantissa 2).symm
  change Locates ⟨mantissa / 2, mantissa % 2 != 0, round || sticky⟩ (x / 2)
  rcases Nat.mod_two_eq_zero_or_one mantissa with even | odd
  · rw [even, Nat.cast_zero] at split
    rw [even]
    cases round <;> cases sticky <;> simp only [Locates] at located <;>
      first
        | exact show x / 2 = _ by linarith
        | exact show _ < _ ∧ _ < _ from ⟨by linarith, by linarith⟩
  · rw [odd, Nat.cast_one] at split
    rw [odd]
    cases round <;> cases sticky <;> simp only [Locates] at located <;>
      first
        | exact show x / 2 = _ by linarith
        | exact show _ < _ ∧ _ < _ from ⟨by linarith, by linarith⟩

theorem Locates.shiftRight {em : ExtendedMantissa} {x : ℚ} (located : Locates em x) (count : ℕ) :
    Locates (em >>> count) (x / 2 ^ count) := by
  change Locates (count.repeat ExtendedMantissa.shiftRightOne em) _
  induction count with
  | zero => simpa [Nat.repeat] using located
  | succ count ih =>
    rw [Nat.repeat, pow_succ, ← div_div]
    exact ih.shiftRightOne

/-- Whether a whole number is the nearest to a value, where of two that are equally near the even one
is taken. -/
def IsNearest (whole : ℕ) (x : ℚ) : Prop :=
  if whole % 2 = 0 then whole - 1 / 2 ≤ x ∧ x ≤ whole + 1 / 2
  else whole - 1 / 2 < x ∧ x < whole + 1 / 2

theorem IsNearest.bounds {whole : ℕ} {x : ℚ} (nearest : IsNearest whole x) :
    (whole : ℚ) - 1 / 2 ≤ x ∧ x ≤ whole + 1 / 2 := by
  unfold IsNearest at nearest
  split at nearest
  · exact nearest
  · exact ⟨nearest.1.le, nearest.2.le⟩

/-- The residual bits are enough to round. -/
theorem Locates.roundedMantissa {em : ExtendedMantissa} {x : ℚ} (located : Locates em x) {whole : ℕ}
    (nearest : IsNearest whole x) : em.roundedMantissa = whole := by
  obtain ⟨mantissa, round, sticky⟩ := em
  have bounds := nearest.bounds
  cases round <;> cases sticky <;> simp only [Locates] at located
  · have close : 2 * mantissa < 2 * whole + 2 ∧ 2 * whole < 2 * mantissa + 2 := by
      constructor <;> qify <;> linarith
    change mantissa = whole
    omega
  · have close : 2 * mantissa < 2 * whole + 1 ∧ 2 * whole < 2 * mantissa + 2 := by
      constructor <;> qify <;> linarith
    change mantissa = whole
    omega
  · have close : mantissa ≤ whole ∧ whole ≤ mantissa + 1 := by
      constructor <;> qify <;> linarith
    -- The value is half way, so only an even number can be meant.
    have even : whole % 2 = 0 := by
      by_contra odd
      rw [IsNearest, if_neg odd] at nearest
      have strict : mantissa < whole ∧ whole < mantissa + 1 := by
        constructor <;> qify <;> linarith
      omega
    change mantissa + mantissa % 2 = whole
    omega
  · have close : 2 * mantissa + 1 < 2 * whole + 1 ∧ 2 * whole < 2 * mantissa + 3 := by
      constructor <;> qify <;> linarith
    change mantissa + 1 = whole
    omega

/-- Whether a value lies in an interval. -/
def Interval.Holds (interval : Interval) (x : ℚ) : Prop :=
  if interval.closed then
    interval.lower * 2 ^ interval.exponent ≤ x ∧ x ≤ interval.upper * 2 ^ interval.exponent
  else interval.lower * 2 ^ interval.exponent < x ∧ x < interval.upper * 2 ^ interval.exponent

theorem Interval.Holds.bounds {interval : Interval} {x : ℚ} (held : interval.Holds x) :
    interval.lower * 2 ^ interval.exponent ≤ x ∧ x ≤ interval.upper * 2 ^ interval.exponent := by
  unfold Holds at held
  split at held
  · exact held
  · exact ⟨held.1.le, held.2.le⟩

theorem targetExponent_eq (total : ℤ) :
    Format.binary64.targetExponent total = max (total - 53) (-1074) := rfl

theorem targetExponent_totalExponent (mantissa : ℕ) (exponent : ℤ) :
    Format.binary64.targetExponent (totalExponent mantissa exponent) =
      max (mantissa.log2 + exponent - 52) (-1074) := by
  rw [targetExponent_eq, totalExponent]
  omega

section

variable {mantissa : ℕ} {exponent : ℤ} {x : ℚ}

/-- The size of a value is that of its mantissa. -/
theorem zpow_le_of_floor (located : mantissa ≤ x / 2 ^ exponent) (some : mantissa ≠ 0) :
    (2 : ℚ) ^ (mantissa.log2 + exponent) ≤ x := by
  have unit : (0 : ℚ) < 2 ^ exponent := by positivity
  have size : (2 : ℚ) ^ mantissa.log2 ≤ mantissa := by exact_mod_cast Nat.log2_self_le some
  rw [zpow_add₀ two_ne_zero, zpow_natCast]
  exact (mul_le_mul_of_nonneg_right size unit.le).trans ((le_div_iff₀ unit).mp located)

theorem lt_zpow_of_floor (located : x / 2 ^ exponent < mantissa + 1) :
    x < (2 : ℚ) ^ (mantissa.log2 + 1 + exponent) := by
  have unit : (0 : ℚ) < 2 ^ exponent := by positivity
  have size : (mantissa : ℚ) + 1 ≤ 2 ^ (mantissa.log2 + 1) := by exact_mod_cast Nat.lt_log2_self
  have power : (2 : ℚ) ^ ((mantissa.log2 : ℤ) + 1 + exponent) =
      2 ^ (mantissa.log2 + 1) * 2 ^ exponent := by
    rw [zpow_add₀ two_ne_zero, ← zpow_natCast, Nat.cast_add, Nat.cast_one]
  rw [power]
  exact (div_lt_iff₀ unit).mp (located.trans_le size)

end

/-- The interval of a double reaches half way to its neighbours. -/
theorem isNearest_of_holds {value : Binary} (positive : 0 < value.significand) {x : ℚ}
    (near : (Interval.ofBinary value).Holds x) :
    IsNearest value.significand (x / 2 ^ value.exponent) := by
  have quarter : (2 : ℚ) ^ value.exponent = 4 * 2 ^ (value.exponent - 2) := by
    rw [zpow_sub₀ two_ne_zero]
    norm_num
    ring
  have unit : (0 : ℚ) < 2 ^ (value.exponent - 2) := by positivity
  have four : (0 : ℚ) < 4 * 2 ^ (value.exponent - 2) := by positivity
  have lower : 4 * (value.significand : ℚ) - 2 ≤ (Interval.ofBinary value).lower := by
    have reach : 4 * value.significand ≤ (Interval.ofBinary value).lower + 2 := by
      simp only [Interval.ofBinary]
      split <;> omega
    have reach : 4 * (value.significand : ℚ) ≤ (Interval.ofBinary value).lower + 2 := by
      exact_mod_cast reach
    linarith
  have upper : ((Interval.ofBinary value).upper : ℚ) = 4 * value.significand + 2 := by
    simp [Interval.ofBinary]
  have grow := mul_le_mul_of_nonneg_right lower unit.le
  rw [quarter]
  unfold Interval.Holds at near
  rw [upper] at near
  change if decide (value.significand % 2 = 0) = true then
    _ * 2 ^ (value.exponent - 2) ≤ x ∧ x ≤ _ * 2 ^ (value.exponent - 2)
    else _ * 2 ^ (value.exponent - 2) < x ∧ x < _ * 2 ^ (value.exponent - 2) at near
  simp only [decide_eq_true_eq] at near
  unfold IsNearest
  split at near
  · rename_i even
    rw [if_pos even, le_div_iff₀ four, div_le_iff₀ four]
    constructor <;> linarith
  · rename_i odd
    rw [if_neg odd, lt_div_iff₀ four, div_lt_iff₀ four]
    constructor <;> linarith

/-- A double is in its own interval. -/
theorem holds_self {value : Binary} (positive : 0 < value.significand) :
    (Interval.ofBinary value).Holds (value.significand * 2 ^ value.exponent) := by
  have quarter : (value.significand : ℚ) * 2 ^ value.exponent =
      (4 * value.significand : ℕ) * 2 ^ (value.exponent - 2) := by
    rw [zpow_sub₀ two_ne_zero]
    push_cast
    ring
  have unit : (0 : ℚ) < 2 ^ (value.exponent - 2) := by positivity
  have lower : (Interval.ofBinary value).lower < 4 * value.significand := by
    simp only [Interval.ofBinary]
    split <;> omega
  have upper : 4 * value.significand < (Interval.ofBinary value).upper := by
    simp only [Interval.ofBinary]
    omega
  rw [quarter]
  have below := mul_lt_mul_of_pos_right (Nat.cast_lt (α := ℚ).mpr lower) unit
  have above := mul_lt_mul_of_pos_right (Nat.cast_lt (α := ℚ).mpr upper) unit
  unfold Interval.Holds
  split
  · exact ⟨below.le, above.le⟩
  · exact ⟨below, above⟩

/-- Below a power of two the neighbour is half as far. -/
theorem le_of_holds_of_narrow {value : Binary} (least : value.significand = 2 ^ 52)
    (above : -1074 < value.exponent) {x : ℚ} (near : (Interval.ofBinary value).Holds x) :
    2 ^ 53 - 1 / 2 ≤ x / 2 ^ (value.exponent - 1) := by
  have half : (2 : ℚ) ^ (value.exponent - 1) = 2 * 2 ^ (value.exponent - 2) := by
    rw [zpow_sub₀ two_ne_zero, zpow_sub₀ two_ne_zero]
    norm_num
    ring
  have reach : (2 ^ 54 - 1 : ℚ) * 2 ^ (value.exponent - 2) ≤ x := by
    have lower : (Interval.ofBinary value).lower = 2 ^ 54 - 1 := by
      simp only [Interval.ofBinary, least]
      rw [if_pos ⟨rfl, above⟩]
      rfl
    have bound : ((Interval.ofBinary value).lower : ℚ) * 2 ^ (value.exponent - 2) ≤ x :=
      near.bounds.1
    rw [lower] at bound
    norm_num at bound ⊢
    exact bound
  rw [half, le_div_iff₀ (by positivity)]
  linarith

/-- The grid on which a value is rounded, which has between `2 ^ 52` and `2 ^ 53` steps up to the value
unless it is the finest there is. -/
theorem grid_eq {mantissa : ℕ} {exponent : ℤ} {x : ℚ}
    (located : mantissa ≤ x / 2 ^ exponent ∧ x / 2 ^ exponent < mantissa + 1)
    (fits : exponent ≤ max (mantissa.log2 + exponent - 52) (-1074)) {grid : ℤ}
    (least : -1074 ≤ grid) (large : -1074 < grid → 2 ^ (52 + grid) ≤ x)
    (small : x < 2 ^ (53 + grid)) : max (mantissa.log2 + exponent - 52) (-1074) = grid := by
  have reach (some : -1074 < grid) : 52 + grid < mantissa.log2 + 1 + exponent :=
    (zpow_lt_zpow_iff_right₀ one_lt_two).mp ((large some).trans_lt (lt_zpow_of_floor located.2))
  by_cases none : mantissa = 0
  · simp only [none, Nat.log2_zero] at fits reach ⊢
    omega
  · have size : mantissa.log2 + exponent < 53 + grid :=
      (zpow_lt_zpow_iff_right₀ one_lt_two).mp ((zpow_le_of_floor located.1 none).trans_lt small)
    omega

/-- What lies near a double is below the end of its grid. -/
theorem lt_of_holds {value : Binary} (canonical : value.IsCanonical)
    (positive : 0 < value.significand) {x : ℚ} (near : (Interval.ofBinary value).Holds x) :
    x < 2 ^ (53 + value.exponent) := by
  have bound : x / 2 ^ value.exponent ≤ value.significand + 1 / 2 :=
    (isNearest_of_holds positive near).bounds.2
  have small : (value.significand : ℚ) + 1 ≤ 2 ^ 53 := by exact_mod_cast canonical.below
  rw [zpow_add₀ two_ne_zero]
  refine (div_lt_iff₀ (by positivity)).mp ?_
  norm_num at small ⊢
  linarith

/-- What lies near a double with more steps than a grid starts with is above the start of its grid. -/
theorem le_of_holds {value : Binary} (positive : 0 < value.significand)
    (full : 2 ^ 52 < value.significand) {x : ℚ} (near : (Interval.ofBinary value).Holds x) :
    2 ^ (52 + value.exponent) ≤ x := by
  have bound : (value.significand : ℚ) - 1 / 2 ≤ x / 2 ^ value.exponent :=
    (isNearest_of_holds positive near).bounds.1
  have large : (2 : ℚ) ^ (52 : ℤ) + 1 ≤ value.significand := by exact_mod_cast full
  rw [zpow_add₀ two_ne_zero]
  refine (le_div_iff₀ (by positivity)).mp ?_
  linarith

/-- The grid on which a value near a double is rounded, and the number to which it is rounded there:
that of the double, or twice as many steps on the finer grid below a power of two. -/
theorem exists_grid {value : Binary} (canonical : value.IsCanonical)
    (positive : 0 < value.significand) {mantissa : ℕ} {exponent : ℤ} {x : ℚ}
    (located : mantissa ≤ x / 2 ^ exponent ∧ x / 2 ^ exponent < mantissa + 1)
    (fits : exponent ≤ max (mantissa.log2 + exponent - 52) (-1074))
    (near : (Interval.ofBinary value).Holds x) :
    ∃ (grid : ℤ) (whole : ℕ), max (mantissa.log2 + exponent - 52) (-1074) = grid ∧
      IsNearest whole (x / 2 ^ grid) ∧
        (grid = value.exponent ∧ whole = value.significand ∨
          grid = value.exponent - 1 ∧ -1074 < value.exponent ∧ whole = 2 ^ 53 ∧
            value.significand = 2 ^ 52) := by
  have above := lt_of_holds canonical positive near
  obtain ⟨_, least, _, full⟩ := canonical
  by_cases narrow : x < 2 ^ (52 + value.exponent) ∧ value.significand = 2 ^ 52 ∧
      -1074 < value.exponent
  · obtain ⟨low, tight, normal⟩ := narrow
    have finer := le_of_holds_of_narrow tight normal near
    have half : (0 : ℚ) < 2 ^ (value.exponent - 1) := by positivity
    have small : x < 2 ^ (53 + (value.exponent - 1)) := by
      rwa [show 53 + (value.exponent - 1) = 52 + value.exponent by ring]
    refine ⟨value.exponent - 1, 2 ^ 53, grid_eq located fits (by omega) (fun _ => ?_) small, ?_,
      .inr ⟨rfl, normal, rfl, tight⟩⟩
    · rw [zpow_add₀ two_ne_zero]
      refine le_trans ?_ ((le_div_iff₀ half).mp finer)
      refine mul_le_mul_of_nonneg_right ?_ half.le
      norm_num
    · rw [zpow_add₀ two_ne_zero, ← div_lt_iff₀ half] at small
      unfold IsNearest
      norm_num at finer small ⊢
      constructor <;> linarith
  · refine ⟨value.exponent, value.significand, grid_eq located fits least (fun normal => ?_) above,
      isNearest_of_holds positive near, .inl ⟨rfl, rfl⟩⟩
    by_contra low
    have loose : value.significand ≠ 2 ^ 52 := fun tight => narrow ⟨not_le.mp low, tight, normal⟩
    exact low (le_of_holds positive (by omega) near)

/-- A mantissa that is shifted to a coarser exponent is the same value there. -/
theorem Locates.shiftToExponent {mantissa : ℕ} {accuracy : Accuracy} {exponent grid : ℤ} {x : ℚ}
    (located : Locates (.ofMantissaAndAccuracy mantissa accuracy) (x / 2 ^ exponent))
    (fits : exponent ≤ grid) :
    Locates (ExtendedMantissa.ofMantissaAndAccuracy mantissa accuracy >>> (grid - exponent).toNat)
      (x / 2 ^ grid) := by
  have shifted := located.shiftRight (grid - exponent).toNat
  rwa [div_div, ← zpow_natCast, ← zpow_add₀ two_ne_zero,
    show exponent + ((grid - exponent).toNat : ℤ) = grid by omega] at shifted

theorem mantissa_ofMantissaAndAccuracy (mantissa : ℕ) (accuracy : Accuracy) :
    (ExtendedMantissa.ofMantissaAndAccuracy mantissa accuracy).mantissa = mantissa := by
  unfold ExtendedMantissa.ofMantissaAndAccuracy
  split <;> rfl

/-- What is nearest to a double on its grid is rounded to it. -/
theorem roundWithAccuracy_eq {value : Binary} (canonical : value.IsCanonical)
    (positive : 0 < value.significand) {mantissa : ℕ} {exponent : ℤ} {accuracy : Accuracy} {x : ℚ}
    (located : Locates (.ofMantissaAndAccuracy mantissa accuracy) (x / 2 ^ exponent))
    (fits : exponent ≤ max (mantissa.log2 + exponent - 52) (-1074))
    (near : (Interval.ofBinary value).Holds x) (sign : Sign) :
    roundWithAccuracy Format.binary64 sign mantissa exponent accuracy =
      .finite sign value.significand value.exponent positive := by
  have floor := located.floor
  rw [mantissa_ofMantissaAndAccuracy] at floor
  obtain ⟨grid, whole, target, nearest, shape⟩ := exists_grid canonical positive floor fits near
  rw [target] at fits
  have rounded := (located.shiftToExponent fits).roundedMantissa nearest
  have moved : exponent + ((grid - exponent).toNat : ℤ) = grid := by omega
  obtain ⟨below, least, most, full⟩ := canonical
  unfold roundWithAccuracy shiftToTargetExponent Float.Model.UnpackedFloat.shiftToExponent
  dsimp only
  rw [targetExponent_totalExponent, target, rounded, moved, targetExponent_totalExponent]
  rcases shape with ⟨rfl, rfl⟩ | ⟨rfl, normal, rfl, narrow⟩
  · -- The rounded mantissa has its final size.
    have still : max ((value.significand.log2 : ℤ) + value.exponent - 52) (-1074) =
        value.exponent := by
      by_cases normal : 2 ^ 52 ≤ value.significand
      · rw [(Nat.log2_eq_iff (Nat.ne_of_gt positive)).mpr ⟨normal, below⟩]
        omega
      · have fewer := (Nat.log2_lt (Nat.ne_of_gt positive)).mpr (Nat.not_le.mp normal)
        omega
    rw [still, Int.sub_self]
    rw [Int.toNat_zero, Nat.cast_zero, Int.add_zero]
    exact dif_neg (Nat.ne_of_gt positive)
  · -- The rounding has carried into a 54th bit, which is shifted out.
    have carried : max (((2 ^ 53).log2 : ℤ) + (value.exponent - 1) - 52) (-1074) =
        value.exponent := by
      rw [Nat.log2_two_pow]
      omega
    have one : (value.exponent - (value.exponent - 1)).toNat = 1 := by omega
    have back : value.exponent - 1 + ((1 : ℕ) : ℤ) = value.exponent := by omega
    have last : (ExtendedMantissa.ofMantissaAndAccuracy (2 ^ 53) .exact >>> 1).mantissa =
        value.significand := narrow.symm
    rw [carried, one, back, last]
    exact dif_neg (Nat.ne_of_gt positive)

/-- The product of two finite values is the double that their exact product is nearest to. -/
theorem mul_eq {value : Binary} (canonical : value.IsCanonical) (positive : 0 < value.significand)
    {first second : ℕ} {power other : ℤ} (some : 0 < first) (more : 0 < second) (sign another : Sign)
    (fits : power + other ≤ max ((first * second).log2 + (power + other) - 52) (-1074))
    (near : (Interval.ofBinary value).Holds ((first * second : ℕ) * 2 ^ (power + other))) :
    mul Format.binary64 (.finite sign first power some) (.finite another second other more) =
      .finite (sign * another) value.significand value.exponent positive := by
  refine roundWithAccuracy_eq canonical positive ?_ fits near (sign * another)
  rw [mul_div_cancel_right₀ _ (by positivity)]
  rfl

/-- The whole part and the rest of a quotient tell where it lies. -/
theorem locates_div (numerator denominator : ℕ) (positive : 0 < denominator) :
    Locates (.ofMantissaAndAccuracy (numerator / denominator)
      (accuracyOfFraction (numerator % denominator) denominator))
        ((numerator : ℚ) / denominator) := by
  have unit : (0 : ℚ) < denominator := by exact_mod_cast positive
  have split : (numerator : ℚ) =
      denominator * (numerator / denominator : ℕ) + (numerator % denominator : ℕ) := by
    exact_mod_cast (Nat.div_add_mod numerator denominator).symm
  have rest : ((numerator % denominator : ℕ) : ℚ) < denominator := by
    exact_mod_cast Nat.mod_lt numerator positive
  generalize numerator / denominator = whole at split ⊢
  generalize numerator % denominator = left at split rest ⊢
  unfold accuracyOfFraction
  by_cases none : left = 0
  · rw [if_pos none]
    change (numerator : ℚ) / denominator = whole
    rw [div_eq_iff unit.ne', split, none]
    push_cast
    ring
  · have some : (0 : ℚ) < left := by exact_mod_cast Nat.pos_of_ne_zero none
    rw [if_neg none]
    rcases order : compare (2 * left) denominator with _ | _ | _
    · have half : 2 * (left : ℚ) < denominator := by exact_mod_cast Nat.compare_eq_lt.mp order
      change (whole : ℚ) < _ ∧ _ < (whole : ℚ) + 1 / 2
      rw [lt_div_iff₀ unit, div_lt_iff₀ unit]
      constructor <;> nlinarith
    · have half : 2 * (left : ℚ) = denominator := by exact_mod_cast Nat.compare_eq_eq.mp order
      change (numerator : ℚ) / denominator = whole + 1 / 2
      rw [div_eq_iff unit.ne']
      linarith
    · have half : (denominator : ℚ) < 2 * left := by exact_mod_cast Nat.compare_eq_gt.mp order
      change (whole : ℚ) + 1 / 2 < _ ∧ _ < (whole : ℚ) + 1
      rw [lt_div_iff₀ unit, div_lt_iff₀ unit]
      constructor <;> nlinarith

/-- A quotient has at most one bit less than the difference of the bits. -/
theorem le_log2_div {first second : ℕ} (some : 0 < first) (more : 0 < second) (shift : ℕ) :
    first.log2 + shift ≤ ((first <<< shift) / second).log2 + 1 + second.log2 := by
  by_contra fewer
  obtain ⟨bits, size⟩ : ∃ bits, first.log2 + shift = bits + (second.log2 + 1) :=
    ⟨first.log2 + shift - (second.log2 + 1), by omega⟩
  have large : 2 ^ bits * second ≤ first <<< shift := by
    calc 2 ^ bits * second ≤ 2 ^ bits * 2 ^ (second.log2 + 1) :=
          Nat.mul_le_mul_left _ Nat.lt_log2_self.le
      _ = 2 ^ first.log2 * 2 ^ shift := by rw [← pow_add, ← pow_add, size]
      _ ≤ first * 2 ^ shift := Nat.mul_le_mul_right _ (Nat.log2_self_le some.ne')
      _ = first <<< shift := (Nat.shiftLeft_eq ..).symm
  have quotient : 2 ^ bits ≤ (first <<< shift) / second := (Nat.le_div_iff_mul_le more).mpr large
  have wide := (Nat.le_log2 (Nat.ne_of_gt (lt_of_lt_of_le (by positivity) quotient))).mpr quotient
  omega

/-- The quotient of two finite values is the double that their exact quotient is nearest to. -/
theorem div_eq {value : Binary} (canonical : value.IsCanonical) (positive : 0 < value.significand)
    {first second : ℕ} {power other : ℤ} (some : 0 < first) (more : 0 < second) (sign another : Sign)
    (near : (Interval.ofBinary value).Holds (first * 2 ^ power / (second * 2 ^ other))) :
    div Format.binary64 (.finite sign first power some) (.finite another second other more) =
      .finite (sign / another) value.significand value.exponent positive := by
  unfold div divCore
  dsimp only
  generalize target : min (power - other) (Format.binary64.targetExponent
    (totalExponent first power - totalExponent second other)) = grid
  rw [targetExponent_eq, totalExponent, totalExponent] at target
  obtain ⟨shift, steps⟩ : ∃ shift : ℕ, power - other - grid = shift :=
    ⟨(power - other - grid).toNat, by omega⟩
  rw [steps, Int.toNat_natCast]
  have wide := le_log2_div some more shift
  refine roundWithAccuracy_eq canonical positive ?_ (by omega) near _
  have same : (first : ℚ) * 2 ^ power / (second * 2 ^ other) / 2 ^ grid =
      (first <<< shift : ℕ) / second := by
    have split : power = other + grid + shift := by omega
    rw [split, zpow_add₀ two_ne_zero, zpow_add₀ two_ne_zero, zpow_natCast, Nat.shiftLeft_eq]
    have nonzero : (second : ℚ) ≠ 0 := by exact_mod_cast more.ne'
    push_cast
    field_simp
  rw [same]
  exact locates_div _ _ more

end FormReport.Number
