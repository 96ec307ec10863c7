import FormReport.Cell.Basic
import FormReport.Proofs.Digits
import Mathlib.Data.List.TakeWhile
import Mathlib.Data.Nat.Cast.Field

set_option autoImplicit false

/- The text of a number in a cell is read back as the number, but for the sign of zero. -/
namespace FormReport.Number

open Float.Model (Format)
open Float.Model.UnpackedFloat

theorem digitsValue_eq (digits : List Char) : digitsValue digits = Nat.ofDigitChars 10 digits 0 := by
  simp only [digitsValue, Nat.ofDigitChars_eq_foldl, Nat.mul_comm 10]

theorem digitsValue_toDigits (n : ℕ) : digitsValue (Nat.toDigits 10 n) = n := by
  rw [digitsValue_eq, Nat.ofDigitChars_toDigits (by decide) (by decide)]

theorem isDigit_of_mem_toDigits {n : ℕ} : ∀ c ∈ Nat.toDigits 10 n, c.isDigit = true :=
  fun _ inside => Nat.isDigit_of_mem_toDigits (by decide) (by decide) inside

section

variable {digits : List Char} (all : ∀ c ∈ digits, c.isDigit = true)

include all

theorem spanDigits_eq : spanDigits digits = (digits, []) := by
  rw [spanDigits, List.takeWhile_eq_self_iff.mpr all, List.dropWhile_eq_nil_iff.mpr all]

theorem spanDigits_point (rest : List Char) :
    spanDigits (digits ++ '.' :: rest) = (digits, '.' :: rest) := by
  rw [spanDigits, List.takeWhile_append_of_pos all, List.dropWhile_append_of_pos all]
  simp

/-- Digits alone are a whole number. -/
theorem readUnsigned_digits (some : digits ≠ []) :
    readUnsigned? digits = .some (ofDecimal (digitsValue digits) 0) := by
  unfold readUnsigned?
  rw [spanDigits_eq all]
  simp [some]

/-- Digits behind a point count as tenths and so on. -/
theorem readUnsigned_point {fraction : List Char} (others : ∀ c ∈ fraction, c.isDigit = true)
    (some : digits ≠ []) :
    readUnsigned? (digits ++ '.' :: fraction) =
      .some (ofDecimal (digitsValue (digits ++ fraction)) (-(fraction.length : ℤ))) := by
  unfold readUnsigned?
  rw [spanDigits_point all]
  simp only [spanDigits_eq others]
  simp [some]

end

/-- Whether a text is made of digits and points. -/
def IsPlain (chars : List Char) : Prop := ∀ c ∈ chars, c.isDigit = true ∨ c = '.'

theorem IsPlain.append {chars others : List Char} (plain : IsPlain chars) (more : IsPlain others) :
    IsPlain (chars ++ others) :=
  fun c inside => (List.mem_append.mp inside).elim (plain c) (more c)

theorem isPlain_of_digits {digits : List Char} (all : ∀ c ∈ digits, c.isDigit = true) :
    IsPlain digits := fun c inside => .inl (all c inside)

/-- Digits and points are neither blanks nor signs. -/
theorem not_special {c : Char} (plain : c.isDigit = true ∨ c = '.') :
    Text.isBlank c = false ∧ c ≠ '-' ∧ c ≠ '+' := by
  rcases plain with digit | rfl
  · have code : 48 ≤ c.toNat ∧ c.toNat ≤ 57 := by
      simpa [Char.isDigit, UInt32.le_iff_toNat_le] using digit
    refine ⟨?_, ?_, ?_⟩
    · simp [Text.isBlank]
      omega
    · rintro rfl
      exact absurd code.1 (by decide)
    · rintro rfl
      exact absurd code.1 (by decide)
  · decide

theorem trimChars_eq {chars : List Char} (filled : ∀ c ∈ chars, Text.isBlank c = false) :
    Text.trimChars chars = chars := by
  have keep {chars : List Char} (filled : ∀ c ∈ chars, Text.isBlank c = false) :
      chars.dropWhile Text.isBlank = chars := by
    cases chars with
    | nil => rfl
    | cons c rest => simp [filled c List.mem_cons_self]
  rw [Text.trimChars, keep filled, keep, List.reverse_reverse]
  exact fun c inside => filled c (List.mem_reverse.mp inside)

/-- A text of digits and points is read without a sign, or with one if it stands before it. -/
theorem ofText?_signed {text : String} (plain : IsPlain text.toList) (negative : Bool) :
    ofText? ((if negative then "-" else "") ++ text) =
      ((readUnsigned? text.toList).map fun x => if negative then -x else x).filter Float.isFinite := by
  have filled (c : Char) (inside : c ∈ text.toList) : Text.isBlank c = false :=
    (not_special (plain c inside)).1
  unfold ofText?
  cases negative with
  | true =>
    have chars : ("-" ++ text).toList = '-' :: text.toList := by
      rw [String.toList_append]
      rfl
    simp only [↓reduceIte, chars]
    rw [trimChars_eq (List.forall_mem_cons.mpr ⟨by decide, filled⟩)]
    rfl
  | false =>
    have chars : ("" ++ text).toList = text.toList := by
      rw [String.toList_append]
      rfl
    simp only [Bool.false_eq_true, ↓reduceIte, chars]
    rw [trimChars_eq filled, Option.map_id']
    congr 1
    cases first : text.toList with
    | nil => rfl
    | cons c rest =>
      obtain ⟨_, minus, plus⟩ := not_special (plain c (first ▸ List.mem_cons_self))
      unfold readSigned?
      split
      · rename_i same
        cases same
        exact absurd rfl minus
      · rename_i same
        cases same
        exact absurd rfl plus
      · rfl

/-- Whether characters are digits with at most one point that are read as a decimal. -/
def Spells (chars : List Char) (decimal : Decimal) : Prop :=
  IsPlain chars ∧ ∃ (digits : ℕ) (exponent : ℤ),
    readUnsigned? chars = some (ofDecimal digits exponent) ∧
      digits * 10 ^ exponent = decimal.size

theorem spells_digits {digits : List Char} (all : ∀ c ∈ digits, c.isDigit = true)
    (some : digits ≠ []) {decimal : Decimal} (size : (digitsValue digits : ℚ) = decimal.size) :
    Spells digits decimal := by
  refine ⟨isPlain_of_digits all, _, _, readUnsigned_digits all some, ?_⟩
  rw [zpow_zero, mul_one, size]

theorem spells_point {whole fraction : List Char} (all : ∀ c ∈ whole, c.isDigit = true)
    (others : ∀ c ∈ fraction, c.isDigit = true) (some : whole ≠ []) {decimal : Decimal}
    (digits : digitsValue (whole ++ fraction) = decimal.digits)
    (places : -(fraction.length : ℤ) = decimal.exponent) :
    Spells (whole ++ '.' :: fraction) decimal := by
  refine ⟨?_, _, _, readUnsigned_point all others some, ?_⟩
  · exact (isPlain_of_digits all).append
      (List.forall_mem_cons.mpr ⟨.inr rfl, isPlain_of_digits others⟩)
  · rw [digits, places, Decimal.size]

namespace Decimal

variable {decimal : Decimal}

/-- A whole number is written with zeros behind its digits. -/
theorem spells_whole (whole : 0 ≤ decimal.exponent) :
    Spells (Nat.toDigits 10 decimal.digits ++ List.replicate decimal.exponent.toNat '0') decimal := by
  refine spells_digits ?_ (by simp [Nat.toDigits_ne_nil]) ?_
  · exact List.forall_mem_append.mpr ⟨isDigit_of_mem_toDigits, by simp⟩
  · rw [digitsValue_eq, Nat.ofDigitChars_append, Nat.ofDigitChars_toDigits (by decide) (by decide),
      Nat.ofDigitChars_replicate_zero, size]
    push_cast
    rw [mul_comm, ← zpow_natCast, Int.toNat_of_nonneg whole]

/-- A number below one is written with zeros between the point and its digits. -/
theorem spells_below_one {count : ℕ}
    (places : -((count + (Nat.toDigits 10 decimal.digits).length : ℕ) : ℤ) = decimal.exponent) :
    Spells (['0'] ++ '.' :: (List.replicate count '0' ++ Nat.toDigits 10 decimal.digits))
      decimal := by
  refine spells_point (by simp) (List.forall_mem_append.mpr ⟨by simp, isDigit_of_mem_toDigits⟩)
    (by simp) ?_ ?_
  · rw [digitsValue_eq, Nat.ofDigitChars_append, Nat.ofDigitChars_append,
      Nat.ofDigitChars_replicate_zero]
    simp [Nat.ofDigitChars_cons]
  · rw [List.length_append, List.length_replicate, places]

/-- Any other number is written with the point between two of its digits. -/
theorem spells_split {place : ℕ} (some : place ≠ 0)
    (places : -(((Nat.toDigits 10 decimal.digits).length - place : ℕ) : ℤ) = decimal.exponent) :
    Spells ((Nat.toDigits 10 decimal.digits).take place ++
      '.' :: (Nat.toDigits 10 decimal.digits).drop place) decimal := by
  refine spells_point (fun c inside => isDigit_of_mem_toDigits c (List.mem_of_mem_take inside))
    (fun c inside => isDigit_of_mem_toDigits c (List.mem_of_mem_drop inside)) ?_ ?_ ?_
  · rw [ne_eq, List.take_eq_nil_iff, or_iff_left Nat.toDigits_ne_nil]
    exact some
  · rw [List.take_append_drop, digitsValue_toDigits]
  · rw [List.length_drop, places]

/-- What is written with all places is read as a decimal of the same size. -/
theorem spells_positional (decimal : Decimal) :
    Spells (decimal.positional "").toList decimal := by
  have length : (Nat.repr decimal.digits).length = (Nat.toDigits 10 decimal.digits).length := by
    rw [← String.length_toList, Nat.toList_repr]
  unfold positional
  dsimp only
  rw [List.splitAt_eq, length, Nat.toList_repr]
  split
  · rename_i whole
    have chars : (Nat.repr decimal.digits ++ zeros decimal.exponent.toNat ++ "").toList =
        Nat.toDigits 10 decimal.digits ++ List.replicate decimal.exponent.toNat '0' := by
      simp [zeros, Nat.toList_repr]
    rw [chars]
    exact spells_whole whole
  · rename_i fraction
    split
    · rename_i none
      rw [List.isEmpty_iff, List.take_eq_nil_iff, or_iff_left Nat.toDigits_ne_nil] at none
      have chars (count : ℕ) : ("0." ++ zeros count ++ Nat.repr decimal.digits).toList =
          ['0'] ++ '.' :: (List.replicate count '0' ++ Nat.toDigits 10 decimal.digits) := by
        simp [zeros, Nat.toList_repr]
      rw [chars]
      exact spells_below_one (by omega)
    · rename_i some
      have chars (whole fraction : List Char) :
          (String.ofList whole ++ "." ++ String.ofList fraction).toList =
            whole ++ '.' :: fraction := by
        simp
      rw [chars]
      rw [List.isEmpty_iff, List.take_eq_nil_iff, or_iff_left Nat.toDigits_ne_nil] at some
      exact spells_split some (by omega)

end Decimal

/-- A value without its sign. -/
def Binary.magnitude (value : Binary) : Binary := { value with negative := false }

section

variable {value : Binary} (canonical : value.IsCanonical) (positive : 0 < value.significand)

include canonical

theorem Binary.IsCanonical.magnitude : value.magnitude.IsCanonical :=
  ⟨canonical.below, canonical.least, canonical.most, canonical.full⟩

include positive

theorem toFloat_eq_signed :
    value.toFloat = if value.negative then -value.magnitude.toFloat else value.magnitude.toFloat := by
  cases negative : value.negative with
  | true =>
    have some : 0 < value.magnitude.significand := positive
    change _ = Float.ofModel (.pack (neg value.magnitude.toFloat.toModel.unpack))
    rw [unpack_toFloat canonical.magnitude, unpacked_eq some rfl, Binary.toFloat, Binary.unpacked,
      dif_pos positive, Binary.sign, negative]
    rfl
  | false =>
    have same : value.magnitude = value := by
      rw [Binary.magnitude, ← negative]
    rw [same]
    rfl

/-- A text that is near a value is read as the value. -/
theorem ofText?_of_spells {text : String} {decimal : Decimal} (spelled : Spells text.toList decimal)
    (near : (Interval.ofBinary value).Holds decimal.size) :
    ofText? ((if value.negative then "-" else "") ++ text) = some value.toFloat := by
  obtain ⟨plain, digits, exponent, read, size⟩ := spelled
  rw [← size] at near
  have some : 0 < digits := by
    by_contra none
    have large := (range_of_holds canonical positive near).1
    rw [Nat.eq_zero_of_not_pos none, Nat.cast_zero, zero_mul] at large
    exact absurd large (not_le.mpr (by positivity))
  have magnitude : ofDecimal digits exponent = value.magnitude.toFloat :=
    ofDecimal_eq_toFloat canonical.magnitude positive rfl some near
  rw [ofText?_signed plain, read, magnitude, Option.map_some, ← toFloat_eq_signed canonical positive]
  exact Option.filter_eq_some_iff.mpr ⟨rfl, isFinite_toFloat canonical⟩

end

/-- The integer that a value is, up to its sign. -/
theorem size_of_integer? {value : Binary} {whole : ℤ} (found : value.integer? = some whole) :
    ∃ magnitude : ℕ, whole = (if value.negative then -(magnitude : ℤ) else magnitude) ∧
      (magnitude : ℚ) = value.significand * 2 ^ value.exponent := by
  unfold Binary.integer? at found
  obtain ⟨_, given, rfl⟩ := Option.map_eq_some_iff.mp found
  obtain ⟨magnitude, measured, same⟩ := Option.bind_eq_some_iff.mp given
  cases same
  clear given found
  refine ⟨magnitude, rfl, ?_⟩
  split at measured
  · rename_i natural
    cases measured
    rw [Nat.shiftLeft_eq]
    push_cast
    rw [← zpow_natCast, Int.toNat_of_nonneg natural]
  · rename_i fraction
    dsimp only at measured
    split at measured
    · rename_i divides
      cases measured
      rw [Nat.cast_div (Nat.dvd_of_mod_eq_zero divides)
        (by rw [Nat.shiftLeft_eq, one_mul]; positivity), Nat.shiftLeft_eq, one_mul]
      push_cast
      rw [← zpow_natCast, Int.toNat_of_nonneg (by omega), zpow_neg, div_inv_eq_mul]
    · cases measured

/-- Whether two numbers are the same, but for the sign of zero. -/
def Alike (x y : Float) : Prop := x = y ∨ (x == 0) = true ∧ (y == 0) = true

theorem beq_zero_iff (x : Float) : (x == 0) = true ↔ ∃ sign, x.toModel.unpack = .zero sign := by
  have unpacked : (x == 0) = (x.toModel.unpack.compare (.zero .positive) == some .eq) := rfl
  rw [unpacked]
  cases x.toModel.unpack with
  | zero sign => exact iff_of_true (by cases sign <;> rfl) ⟨sign, rfl⟩
  | notANumber => exact iff_of_false Bool.false_ne_true (by rintro ⟨_, ⟨⟩⟩)
  | infinity sign => cases sign <;> exact iff_of_false Bool.false_ne_true (by rintro ⟨_, ⟨⟩⟩)
  | finite sign => cases sign <;> exact iff_of_false Bool.false_ne_true (by rintro ⟨_, ⟨⟩⟩)

theorem beq_zero_iff_significand {x : Float} (finite : x.isFinite = true) :
    (x == 0) = true ↔ (Binary.ofFloat x).significand = 0 := by
  rw [beq_zero_iff, unpack_eq finite, Binary.unpacked]
  by_cases positive : 0 < (Binary.ofFloat x).significand
  · rw [dif_pos positive]
    exact iff_of_false (by rintro ⟨_, ⟨⟩⟩) positive.ne'
  · rw [dif_neg positive]
    exact iff_of_true ⟨_, rfl⟩ (Nat.eq_zero_of_not_pos positive)

theorem isNaN_eq_false {x : Float} (finite : x.isFinite = true) : x.isNaN = false := by
  change x.toModel.unpack.isNaN = false
  rcases unpack_of_isFinite finite with ⟨_, same⟩ | ⟨_, _, _, _, same⟩ <;> rw [same] <;> rfl

/-- In cells all places are written. -/
theorem decimal_cellLayout (decimal : Decimal) :
    cellLayout.decimal decimal = decimal.positional "" := by
  have plain : cellLayout.isPlain decimal.leading = true := rfl
  rw [Layout.decimal, plain, Bool.or_true, if_pos rfl]
  rfl

/-- The text of a number that is not zero is a sign and a text near the number. -/
theorem cellText_eq_spelled {x : Float} (finite : x.isFinite = true)
    (positive : 0 < (Binary.ofFloat x).significand) :
    ∃ (text : String) (decimal : Decimal), Spells text.toList decimal ∧
      (Interval.ofBinary (Binary.ofFloat x)).Holds decimal.size ∧
        cellText x = (if (Binary.ofFloat x).negative then "-" else "") ++ text := by
  unfold cellText
  cases plain : plainInteger? x with
  | some whole =>
    have found : integer? x = .some whole := (Option.filter_eq_some_iff.mp plain).1
    rw [integer?, if_pos finite] at found
    obtain ⟨magnitude, rfl, size⟩ := size_of_integer? found
    have some : 0 < magnitude := by
      have some : (0 : ℚ) < magnitude := by
        rw [size]
        positivity
      exact_mod_cast some
    refine ⟨Nat.repr magnitude, ⟨magnitude, 0⟩, ?_, ?_, ?_⟩
    · rw [Nat.toList_repr]
      refine spells_digits isDigit_of_mem_toDigits Nat.toDigits_ne_nil ?_
      rw [digitsValue_toDigits, Decimal.size, zpow_zero, mul_one]
    · rw [Decimal.size, zpow_zero, mul_one, size]
      exact holds_self positive
    · cases (Binary.ofFloat x).negative with
      | true => simp [some]
      | false => simp
  | none =>
    refine ⟨((Binary.ofFloat x).shortest .upward).positional "", _, Decimal.spells_positional _,
      holds_shortest positive .upward, ?_⟩
    dsimp only
    rw [Layout.text, if_neg (by rw [isNaN_eq_false finite]; decide), if_pos finite,
      decimal_cellLayout]
    rfl

theorem Binary.integer?_of_zero {value : Binary} (zero : value.significand = 0) :
    value.integer? = some 0 := by
  unfold Binary.integer?
  simp [zero]

theorem isFinite_of_zero {x : Float} (zero : (x == 0) = true) : x.isFinite = true := by
  obtain ⟨sign, unpacked⟩ := (beq_zero_iff x).mp zero
  change x.toModel.unpack.isFinite = true
  rw [unpacked]
  rfl

/-- Both zeros have the same text. -/
theorem cellText_of_zero {x : Float} (zero : (x == 0) = true) : cellText x = "0" := by
  have finite := isFinite_of_zero zero
  have plain : plainInteger? x = some 0 := by
    rw [plainInteger?, integer?, if_pos finite,
      Binary.integer?_of_zero ((beq_zero_iff_significand finite).mp zero)]
    rfl
  rw [cellText, plain]
  rfl

/-- What is not finite is written as a word. -/
theorem cellText_of_not_finite {x : Float} (endless : x.isFinite = false) :
    cellText x ∈ ["NaN", "inf", "-inf"] := by
  have plain : plainInteger? x = none := by
    rw [plainInteger?, integer?, endless]
    rfl
  rw [cellText, plain]
  dsimp only
  rw [Layout.text]
  split
  · simp
  · rw [endless, if_neg (by decide)]
    split <;> decide

/-- The text of a number is read back, but for the sign of zero. What is not finite is not read. -/
theorem number_cellText (x : Float) :
    Option.Rel Alike (Cell.number x).number? (Cell.text (cellText x)).number? := by
  simp only [Cell.number?]
  cases finite : x.isFinite with
  | true =>
    cases zero : x == 0 with
    | true =>
      rw [cellText_of_zero zero]
      have read : ofText? "0" = some 0 := by decide +kernel
      rw [read]
      exact .some (.inr ⟨zero, rfl⟩)
    | false =>
      have positive : 0 < (Binary.ofFloat x).significand := by
        have nonzero := (beq_zero_iff_significand finite).not.mp (by simp [zero])
        omega
      obtain ⟨text, decimal, spelled, near, same⟩ := cellText_eq_spelled finite positive
      rw [same, ofText?_of_spells (isCanonical_ofFloat finite) positive spelled near,
        toFloat_ofFloat finite]
      exact .some (.inl rfl)
  | false =>
    have words : ∀ word ∈ ["NaN", "inf", "-inf"], ofText? word = none := by decide +kernel
    rw [words _ (cellText_of_not_finite finite)]
    exact .none

/-- No other number is written as zero is. -/
theorem cellText_eq_zero_iff (x : Float) : cellText x = "0" ↔ (x == 0) = true := by
  refine ⟨fun same => ?_, cellText_of_zero⟩
  have read : ofText? "0" = some 0 := by decide +kernel
  have alike := number_cellText x
  simp only [Cell.number?, same, read] at alike
  split at alike
  · cases alike with
    | some alike =>
      rcases alike with rfl | ⟨zero, _⟩
      · rfl
      · exact zero
  · cases alike

theorem cellText_ne_empty (x : Float) : cellText x ≠ "" := by
  intro empty
  cases finite : x.isFinite with
  | true =>
    have alike := number_cellText x
    simp only [Cell.number?, finite, ↓reduceIte, empty, ofText?_empty] at alike
    cases alike
  | false =>
    have word := cellText_of_not_finite finite
    rw [empty] at word
    exact absurd word (by decide)

end FormReport.Number

namespace FormReport.Cell

/-- Whether a cell may stand in a row of totals is told by the text by which rows are grouped. -/
theorem isTotalPlaceholder_eq (cell : Cell) :
    cell.isTotalPlaceholder = cell.groupKey.all fun text => text.isEmpty || text = "0" := by
  cases cell with
  | text value => rfl
  | date value => rfl
  | missing => rfl
  | number x =>
    have filled : (Number.cellText x).isEmpty = false := by
      simpa using Number.cellText_ne_empty x
    rw [Bool.eq_iff_iff]
    simp [isTotalPlaceholder, groupKey, filled, Number.cellText_eq_zero_iff]

end FormReport.Cell
