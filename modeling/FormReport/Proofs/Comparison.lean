import FormReport.Proofs.CellOrder
import FormReport.Proofs.Spelling

set_option autoImplicit false

/- Doubles in order and doubles as numbers. The order of doubles goes by their place among the encodings
of their sign, and comparing them as numbers goes by exponent and significand. That is the same, but for
the two zeros, which are one number and two places. -/
namespace FormReport.Number

namespace Binary

/-- The place of a canonical value among those of its sign: what is left of its encoding without the
sign. -/
def place (value : Binary) : Nat :=
  if value.significand < 2 ^ 52 then value.significand
  else (value.exponent + 1075).toNat * 2 ^ 52 + (value.significand - 2 ^ 52)

/-- The place of a canonical value among all. -/
def key (value : Binary) : Int := if value.negative then -(value.place : Int) - 1 else value.place

variable {value other : Binary}

theorem IsCanonical.place_lt_iff (canonical : value.IsCanonical) (another : other.IsCanonical) :
    value.place < other.place ↔ value.exponent < other.exponent ∨
      value.exponent = other.exponent ∧ value.significand < other.significand := by
  obtain ⟨below, least, most, full⟩ := canonical
  obtain ⟨belowOther, leastOther, mostOther, fullOther⟩ := another
  unfold place
  split <;> split <;> omega

theorem IsCanonical.compare_place (canonical : value.IsCanonical) (another : other.IsCanonical) :
    compare value.place other.place =
      (compare value.exponent other.exponent).then
        (compare value.significand other.significand) := by
  have less := canonical.place_lt_iff another
  have greater := another.place_lt_iff canonical
  rcases Int.lt_trichotomy value.exponent other.exponent with before | same | after
  · rw [Nat.compare_eq_lt.mpr (less.mpr (.inl before)), Int.compare_eq_lt.mpr before]
    rfl
  · rw [Int.compare_eq_eq.mpr same]
    rcases Nat.lt_trichotomy value.significand other.significand with fewer | equal | more
    · rw [Nat.compare_eq_lt.mpr (less.mpr (.inr ⟨same, fewer⟩)), Nat.compare_eq_lt.mpr fewer]
      rfl
    · have level : value.place = other.place := by omega
      rw [Nat.compare_eq_eq.mpr level, Nat.compare_eq_eq.mpr equal]
      rfl
    · rw [Nat.compare_eq_gt.mpr (greater.mpr (.inr ⟨same.symm, more⟩)), Nat.compare_eq_gt.mpr more]
      rfl
  · rw [Nat.compare_eq_gt.mpr (greater.mpr (.inl after)), Int.compare_eq_gt.mpr after]
    rfl

theorem IsCanonical.place_eq_zero_iff (canonical : value.IsCanonical) :
    value.place = 0 ↔ value.significand = 0 := by
  obtain ⟨below, least, most, full⟩ := canonical
  unfold place
  split <;> omega

theorem compare_eq_compare {first second : Nat} {left right : Int}
    (less : left < right ↔ first < second) (greater : right < left ↔ second < first) :
    compare left right = compare first second := by
  rcases Nat.lt_trichotomy first second with before | same | after
  · rw [Nat.compare_eq_lt.mpr before, Int.compare_eq_lt.mpr (less.mpr before)]
  · rw [Nat.compare_eq_eq.mpr same, Int.compare_eq_eq.mpr (by omega)]
  · rw [Nat.compare_eq_gt.mpr after, Int.compare_eq_gt.mpr (greater.mpr after)]

/-- Values of one sign are placed by their size, and all negative ones before the others. -/
theorem compare_key : compare value.key other.key =
    match value.negative, other.negative with
    | false, false => compare value.place other.place
    | true, true => compare other.place value.place
    | true, false => .lt
    | false, true => .gt := by
  unfold key
  cases value.negative <;> cases other.negative <;>
    simp only [Bool.false_eq_true, ↓reduceIte]
  · exact compare_eq_compare (by omega) (by omega)
  · exact Int.compare_eq_gt.mpr (by omega)
  · exact Int.compare_eq_lt.mpr (by omega)
  · exact compare_eq_compare (by omega) (by omega)

/-- Values compare as numbers by their places, but for the zeros, which are all one number. -/
theorem compare_unpacked (canonical : value.IsCanonical) (another : other.IsCanonical) :
    value.unpacked.compare other.unpacked =
      some (if value.significand = 0 ∧ other.significand = 0 then .eq
        else compare value.key other.key) := by
  have places := canonical.compare_place another
  have swapped : compare other.place value.place = (compare value.place other.place).swap :=
    Std.OrientedCmp.eq_swap
  rw [compare_key, unpacked, unpacked, sign, sign]
  -- A zero has no exponent when it is taken apart, so its place stands in for one.
  by_cases positive : 0 < value.significand <;> by_cases more : 0 < other.significand
  · have nonzero : ¬ (value.significand = 0 ∧ other.significand = 0) := by omega
    rw [dif_pos positive, dif_pos more, if_neg nonzero, swapped, places]
    cases value.negative <;> cases other.negative <;> rfl
  · have nonzero : ¬ (value.significand = 0 ∧ other.significand = 0) := by omega
    have least : other.place = 0 := another.place_eq_zero_iff.mpr (by omega)
    have above : compare value.place 0 = .gt := Nat.compare_eq_gt.mpr (Nat.pos_of_ne_zero fun none => by
      rw [canonical.place_eq_zero_iff] at none; omega)
    rw [dif_pos positive, dif_neg more, if_neg nonzero, swapped, least, above]
    cases value.negative <;> cases other.negative <;> rfl
  · have nonzero : ¬ (value.significand = 0 ∧ other.significand = 0) := by omega
    have least : value.place = 0 := canonical.place_eq_zero_iff.mpr (by omega)
    have below : compare 0 other.place = .lt := Nat.compare_eq_lt.mpr (Nat.pos_of_ne_zero fun none => by
      rw [another.place_eq_zero_iff] at none; omega)
    rw [dif_neg positive, dif_pos more, if_neg nonzero, swapped, least, below]
    cases value.negative <;> cases other.negative <;> rfl
  · have zeros : value.significand = 0 ∧ other.significand = 0 := by omega
    rw [dif_neg positive, dif_neg more, if_pos zeros]
    rfl

end Binary

theorem orderKey_eq {x : Float} (finite : x.isFinite = true) :
    orderKey x = (Binary.ofFloat x).key := by
  -- The encoding is the sign and the place.
  have bits := toNat_word_toFloat (isCanonical_ofFloat finite)
  rw [toFloat_ofFloat finite] at bits
  change x.toBits.toNat = (if (Binary.ofFloat x).negative then 2 ^ 63 else 0) +
    (Binary.ofFloat x).place at bits
  have top : 1 <<< 63 = 2 ^ 63 := rfl
  have bound : (Binary.ofFloat x).place < 2 ^ 63 := by
    obtain ⟨below, least, most, full⟩ := isCanonical_ofFloat finite
    unfold Binary.place
    split <;> omega
  unfold orderKey Binary.key
  rw [top]
  dsimp only
  cases negative : (Binary.ofFloat x).negative <;> rw [negative] at bits <;>
    simp only [Bool.false_eq_true, ↓reduceIte] at bits ⊢ <;> split <;> omega

/-- A double equal to zero is one of two. -/
theorem beq_zero_iff_eq {x : Float} : (x == 0) = true ↔ x = 0 ∨ x = -0.0 := by
  constructor
  · intro zero
    have finite := isFinite_of_zero zero
    obtain ⟨below, least, most, full⟩ := isCanonical_ofFloat finite
    have none := (beq_zero_iff_significand finite).mp zero
    rw [← toFloat_ofFloat finite]
    generalize Binary.ofFloat x = value at *
    obtain ⟨negative, significand, exponent⟩ := value
    dsimp only at below least most full none
    obtain rfl : exponent = -1074 := by omega
    subst none
    cases negative with
    | false => exact .inl rfl
    | true => exact .inr rfl
  · rintro (rfl | rfl) <;> rfl

/-- Whether two doubles are the two zeros. -/
def OppositeZeros (x y : Float) : Prop := x = 0 ∧ y = -0.0 ∨ x = -0.0 ∧ y = 0

theorem oppositeZeros_iff {x y : Float} :
    OppositeZeros x y ↔ ((x == 0) = true ∧ (y == 0) = true) ∧ x ≠ y := by
  have different : (0 : Float) ≠ -0.0 := by decide
  rw [OppositeZeros, beq_zero_iff_eq, beq_zero_iff_eq]
  constructor
  · rintro (⟨rfl, rfl⟩ | ⟨rfl, rfl⟩)
    · exact ⟨⟨.inl rfl, .inr rfl⟩, different⟩
    · exact ⟨⟨.inr rfl, .inl rfl⟩, different.symm⟩
  · rintro ⟨⟨rfl | rfl, rfl | rfl⟩, apart⟩
    · exact absurd rfl apart
    · exact .inl ⟨rfl, rfl⟩
    · exact .inr ⟨rfl, rfl⟩
    · exact absurd rfl apart

theorem order_swap (x y : Float) : order y x = (order x y).swap := by
  unfold order
  exact Std.OrientedCmp.eq_swap

section Order

variable {x y : Float}

theorem compare_unpack (finite : x.isFinite = true) (also : y.isFinite = true) :
    x.toModel.unpack.compare y.toModel.unpack =
      some (if (x == 0) = true ∧ (y == 0) = true then .eq else order x y) := by
  rw [unpack_eq finite, unpack_eq also,
    Binary.compare_unpacked (isCanonical_ofFloat finite) (isCanonical_ofFloat also), order,
    orderKey_eq finite, orderKey_eq also]
  simp only [beq_zero_iff_significand finite, beq_zero_iff_significand also]

/-- Doubles stand in order as the numbers they are, but for the zeros. -/
theorem compare_unpack_of_not_oppositeZeros (finite : x.isFinite = true) (also : y.isFinite = true)
    (apart : ¬ OppositeZeros x y) :
    x.toModel.unpack.compare y.toModel.unpack = some (order x y) := by
  rw [compare_unpack finite also]
  split
  · rename_i zeros
    have same : x = y := by
      by_contra different
      exact apart (oppositeZeros_iff.mpr ⟨zeros, different⟩)
    rw [order_eq_iff.mpr same]
  · rfl

theorem beq_iff_order (finite : x.isFinite = true) (also : y.isFinite = true)
    (apart : ¬ OppositeZeros x y) : (x == y) = true ↔ order x y = .eq := by
  change (x.toModel.unpack.compare y.toModel.unpack == some .eq) = true ↔ _
  rw [compare_unpack_of_not_oppositeZeros finite also apart, beq_iff_eq, Option.some.injEq]

theorem lt_iff_order (finite : x.isFinite = true) (also : y.isFinite = true)
    (apart : ¬ OppositeZeros x y) : x < y ↔ order x y = .lt := by
  have less : x < y ↔ (x.toModel.unpack.compare y.toModel.unpack == some .lt) = true :=
    decide_eq_true_iff
  rw [less, compare_unpack_of_not_oppositeZeros finite also apart, beq_iff_eq, Option.some.injEq]

theorem le_iff_order (finite : x.isFinite = true) (also : y.isFinite = true)
    (apart : ¬ OppositeZeros x y) : x ≤ y ↔ order x y ≠ .gt := by
  have least : x ≤ y ↔ (x.toModel.unpack.compare y.toModel.unpack).any (·.isLE) = true :=
    decide_eq_true_iff
  rw [least, compare_unpack_of_not_oppositeZeros finite also apart, Option.any_some,
    ne_eq, Ordering.ne_gt_iff_isLE]

theorem beq_zero_iff_orderKey (x : Float) :
    (x == 0) = true ↔ orderKey x = 0 ∨ orderKey x = -1 := by
  rw [beq_zero_iff_eq, ← orderKey_injective.eq_iff, ← orderKey_injective.eq_iff (b := -0.0)]
  rfl

/-- Finite doubles are ordered by their places, where the two zeros count as one. -/
theorem le_iff_orderKey (finite : x.isFinite = true) (also : y.isFinite = true) :
    x ≤ y ↔ (x == 0) = true ∧ (y == 0) = true ∨ orderKey x ≤ orderKey y := by
  have least : x ≤ y ↔ (x.toModel.unpack.compare y.toModel.unpack).any (·.isLE) = true :=
    decide_eq_true_iff
  rw [least, compare_unpack finite also, Option.any_some]
  by_cases zeros : (x == 0) = true ∧ (y == 0) = true
  · simp [zeros]
  · rw [if_neg zeros, order, Int.isLE_compare]
    simp only [zeros, false_or]

theorem le_total_of_isFinite (finite : x.isFinite = true) (also : y.isFinite = true) :
    x ≤ y ∨ y ≤ x := by
  rw [le_iff_orderKey finite also, le_iff_orderKey also finite]
  omega

theorem le_trans_of_isFinite {z : Float} (finite : x.isFinite = true) (also : y.isFinite = true)
    (third : z.isFinite = true) (below : x ≤ y) (above : y ≤ z) : x ≤ z := by
  rw [le_iff_orderKey finite also, beq_zero_iff_orderKey, beq_zero_iff_orderKey] at below
  rw [le_iff_orderKey also third, beq_zero_iff_orderKey, beq_zero_iff_orderKey] at above
  rw [le_iff_orderKey finite third, beq_zero_iff_orderKey, beq_zero_iff_orderKey]
  omega

theorem le_infinity (finite : x.isFinite = true) : x ≤ infinity := by
  have least : x ≤ infinity ↔
      (x.toModel.unpack.compare infinity.toModel.unpack).any (·.isLE) = true := decide_eq_true_iff
  have top : infinity.toModel.unpack = .infinity .positive := rfl
  rw [least, top]
  rcases unpack_of_isFinite finite with ⟨_, same⟩ | ⟨_, _, _, _, same⟩ <;> rw [same] <;> rfl

theorem neg_infinity_le (finite : x.isFinite = true) : -infinity ≤ x := by
  have least : -infinity ≤ x ↔
      ((-infinity).toModel.unpack.compare x.toModel.unpack).any (·.isLE) = true := decide_eq_true_iff
  have bottom : (-infinity).toModel.unpack = .infinity .negative := rfl
  rw [least, bottom]
  rcases unpack_of_isFinite finite with ⟨_, same⟩ | ⟨_, _, _, _, same⟩ <;> rw [same] <;> rfl

theorem OppositeZeros.symm (zeros : OppositeZeros x y) : OppositeZeros y x := by
  rcases zeros with ⟨first, second⟩ | ⟨first, second⟩
  · exact .inr ⟨second, first⟩
  · exact .inl ⟨second, first⟩

/-- The zeros are the same number, but not in the same place. -/
theorem OppositeZeros.beq_and_order (zeros : OppositeZeros x y) :
    (x == y) = true ∧ order x y ≠ .eq := by
  constructor
  · rcases zeros with ⟨rfl, rfl⟩ | ⟨rfl, rfl⟩ <;> rfl
  · rw [ne_eq, order_eq_iff]
    exact (oppositeZeros_iff.mp zeros).2

end Order

end FormReport.Number
