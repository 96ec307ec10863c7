import FormReport.Proofs.Finiteness
import FormReport.Proofs.ReadBack

set_option autoImplicit false

/- Cells as documents. What is handed out of a typed cell is taken in as the same cell again under the same
type, but for the sign of zero: dates come back from texts by their type, and whole numbers, which are
handed out as integers, are exact as doubles. -/
namespace FormReport

namespace Number

open Float.Model (Format)

section

variable {value : Binary} (canonical : value.IsCanonical) (positive : 0 < value.significand)
  (unsigned : value.negative = false)

include canonical positive unsigned in
/-- A natural number that is the value of a double is converted to it. -/
theorem ofNat_eq_toFloat {n : ℕ} (size : (n : ℚ) = value.significand * 2 ^ value.exponent) :
    Float.ofNat n = value.toFloat := by
  have some : 0 < n := by
    have some : (0 : ℚ) < n := by
      rw [size]
      positivity
    exact_mod_cast some
  have near : (Interval.ofBinary value).Holds (n * 10 ^ (0 : ℤ)) := by
    rw [zpow_zero, mul_one, size]
    exact holds_self positive
  exact ofScientific_eq_toFloat canonical positive unsigned some near

end

theorem ofInt_neg {n : ℕ} (some : 0 < n) : Float.ofInt (-(n : ℤ)) = -Float.ofNat n := by
  obtain ⟨fewer, rfl⟩ : ∃ fewer, n = fewer + 1 := ⟨n - 1, by omega⟩
  rfl

/-- A double that is an integer is what the integer is converted to, but for the sign of zero. -/
theorem ofInt_of_integer? {x : Float} {whole : ℤ} (found : integer? x = some whole) :
    Float.ofInt whole = if x == 0 then 0 else x := by
  have finite : x.isFinite = true := by
    by_contra endless
    rw [integer?, if_neg endless] at found
    cases found
  rw [integer?, if_pos finite] at found
  cases zero : x == 0 with
  | true =>
    rw [Binary.integer?_of_zero ((beq_zero_iff_significand finite).mp zero)] at found
    cases found
    rfl
  | false =>
    have positive : 0 < (Binary.ofFloat x).significand := by
      have nonzero := (beq_zero_iff_significand finite).not.mp (by simp [zero])
      omega
    have canonical := isCanonical_ofFloat finite
    obtain ⟨n, rfl, size⟩ := size_of_integer? found
    have converted : Float.ofNat n = (Binary.ofFloat x).magnitude.toFloat :=
      ofNat_eq_toFloat canonical.magnitude positive rfl size
    have signed := toFloat_eq_signed canonical positive
    rw [toFloat_ofFloat finite, ← converted] at signed
    rw [if_neg Bool.false_ne_true]
    refine Eq.trans ?_ signed.symm
    cases (Binary.ofFloat x).negative with
    | true =>
      have some : 0 < n := by
        have some : (0 : ℚ) < n := by
          rw [size]
          positivity
        exact_mod_cast some
      exact ofInt_neg some
    | false => rfl

end Number

namespace Cell

/-- The same cell with a zero that has no sign. -/
def unsignedZero : Cell → Cell
  | number x => number (if x == 0 then 0 else x)
  | cell => cell

theorem typed_number (x : Float) (valueType : ValueType) : (number x).typed valueType = number x := by
  cases valueType <;> rfl

theorem typed_missing (valueType : ValueType) : missing.typed valueType = missing := by
  cases valueType <;> rfl

/-- A finite number is taken in as it was handed out, but for the sign of zero. -/
theorem ofJson?_toJson_number {x : Float} (finite : x.isFinite = true) :
    ofJson? (number x).toJson = some (number x).unsignedZero := by
  rw [toJson]
  cases plain : Number.plainInteger? x with
  | some whole =>
    have found : Number.integer? x = some whole := (Option.filter_eq_some_iff.mp plain).1
    exact congrArg (fun y => some (number y)) (Number.ofInt_of_integer? found)
  | none =>
    have nonzero : (x == 0) = false := by
      by_contra zero
      rw [Bool.not_eq_false] at zero
      rw [Number.plainInteger?, Number.integer?, if_pos finite, Number.Binary.integer?_of_zero
        ((Number.beq_zero_iff_significand finite).mp zero)] at plain
      cases plain
    simp [unsignedZero, ofJson?, finite, nonzero]

/-- Whether a cell of a type is found again in its document, but for the sign of zero. -/
def Returns (cell : Cell) (valueType : ValueType) : Prop :=
  (ofJson? cell.toJson).map (·.typed valueType) = some cell.unsignedZero

theorem returns_number {x : Float} (finite : x.isFinite = true) (valueType : ValueType) :
    (number x).Returns valueType := by
  rw [Returns, ofJson?_toJson_number finite]
  exact congrArg some (typed_number _ valueType)

theorem returns_missing (valueType : ValueType) : missing.Returns valueType :=
  congrArg some (typed_missing valueType)

/-- A text is typed again as it was before: a number is none of its texts any more, and what a date shows
is the text that it was made of. -/
theorem returns_typed_text (value : String) (valueType : ValueType) :
    ((text value).typed valueType).Returns valueType := by
  cases valueType with
  | number =>
    cases read : Number.ofText? value with
    | some x =>
      have counted : (text value).typed .number = number x := by rw [typed, read]
      rw [counted]
      exact returns_number (isFinite_of_ofText? read) .number
    | none =>
      have kept : (text value).typed .number = text value := by rw [typed, read]
      rw [kept]
      exact congrArg some kept
  | date =>
    by_cases blank : Text.trim value = ""
    · have kept : (text value).typed .date = text value := if_pos blank
      rw [kept]
      exact congrArg some kept
    · have dated : (text value).typed .date = date value := if_neg blank
      rw [dated]
      exact congrArg some dated
  | text => rfl
  | longText => rfl
  | derived => rfl

theorem returns_typed {stored : Json} {cell : Cell} (scalar : ofJson? stored = some cell)
    {valueType : ValueType} (finite : (cell.typed valueType).IsFinite) :
    (cell.typed valueType).Returns valueType := by
  have counted (x : Float) (finite : ((number x).typed valueType).IsFinite) :
      ((number x).typed valueType).Returns valueType := by
    rw [typed_number] at finite ⊢
    exact returns_number finite valueType
  cases stored with
  | null =>
    cases scalar
    rw [typed_missing]
    exact returns_missing valueType
  | bool value =>
    cases scalar
    exact returns_typed_text _ valueType
  | text value =>
    cases scalar
    exact returns_typed_text value valueType
  | integer value =>
    cases scalar
    exact counted _ finite
  | decimal value =>
    cases scalar
    exact counted _ finite
  | array items => cases scalar
  | object fields => cases scalar

/-- The document of a cell is read back from its text, if its number is where it is a decimal. -/
theorem read?_write_toJson {cell : Cell} {depth : ℕ}
    (decimals : ∀ x, cell.toJson = .decimal x →
      Json.read? depth (Json.write (.decimal x)) = some (.decimal x)) :
    Json.read? depth (Json.write cell.toJson) = some cell.toJson := by
  cases cell with
  | missing => exact Json.read?_write_null depth
  | text value => exact Json.read?_write_text depth value
  | date value => exact Json.read?_write_text depth value
  | number x =>
    cases plain : Number.plainInteger? x with
    | some whole =>
      have shape : (number x).toJson = .integer whole := by rw [toJson, plain]
      have small : whole.natAbs < 9000000000000000 := by
        simpa using (Option.filter_eq_some_iff.mp plain).2
      rw [shape]
      exact Json.read?_write_integer depth (lt_trans small (by decide))
    | none =>
      have shape : (number x).toJson = if x.isFinite then .decimal x else .null := by rw [toJson, plain]
      by_cases finite : x.isFinite = true
      · rw [if_pos finite] at shape
        rw [shape]
        exact decimals x shape
      · rw [if_neg finite] at shape
        rw [shape]
        exact Json.read?_write_null depth

/-- A typed cell survives being handed out, as a document or as its text: taken in again under its type it
is the same cell, with a zero that has lost its sign. Decimals are read back from the text where their
digits are. -/
theorem survives_toJson {stored : Json} {cell : Cell} (scalar : ofJson? stored = some cell)
    {valueType : ValueType} (finite : (cell.typed valueType).IsFinite) :
    (ofJson? (cell.typed valueType).toJson).map (·.typed valueType) =
        some (cell.typed valueType).unsignedZero ∧
      ∀ depth, (∀ x, (cell.typed valueType).toJson = .decimal x →
          Json.read? depth (Json.write (.decimal x)) = some (.decimal x)) →
        ((Json.read? depth (Json.write (cell.typed valueType).toJson)).bind ofJson?).map
          (·.typed valueType) = some (cell.typed valueType).unsignedZero := by
  have returns := returns_typed scalar finite
  refine ⟨returns, fun depth decimals => ?_⟩
  rw [read?_write_toJson decimals]
  exact returns

/-- A decimal among blanks, a day, and a zero that loses its sign. -/
theorem survives_toJson_half :
    ((Json.read? 0 (Json.write ((text " 2.5 ").typed .number).toJson)).bind ofJson?).map
        (·.typed .number) = some (number 2.5) ∧
      ((Json.read? 0 (Json.write ((text "2024-03-01").typed .date).toJson)).bind ofJson?).map
        (·.typed .date) = some (date "2024-03-01") ∧
      (ofJson? ((number (-0.0)).typed .derived).toJson).map (·.typed .derived) = some (number 0) := by
  refine ⟨?_, ?_, ?_⟩
  · have half : (text " 2.5 ").typed .number = number 2.5 := by decide +kernel
    have scalar : ofJson? (.text " 2.5 ") = some (text " 2.5 ") := rfl
    have finite : ((text " 2.5 ").typed .number).IsFinite :=
      IsFinite.typed (show IsFinite (text " 2.5 ") from trivial) .number
    have kept : (number 2.5).unsignedZero = number 2.5 := by decide +kernel
    rw [← kept, ← half]
    refine (survives_toJson scalar finite).2 0 fun x shape => ?_
    have decimal : ((text " 2.5 ").typed .number).toJson = .decimal 2.5 := by
      rw [half]
      rfl
    rw [decimal] at shape
    cases shape
    have written : Json.write (.decimal 2.5) = "2.5" := by decide +kernel
    have chars : "2.5".toList = ['2', '.', '5'] := rfl
    rw [written, Json.read?, chars, Json.readValue_of_numeral (.inr rfl)]
    rfl
  · have day : (text "2024-03-01").typed .date = date "2024-03-01" := by decide +kernel
    have scalar : ofJson? (.text "2024-03-01") = some (text "2024-03-01") := rfl
    have finite : ((text "2024-03-01").typed .date).IsFinite :=
      IsFinite.typed (show IsFinite (text "2024-03-01") from trivial) .date
    have survives := (survives_toJson scalar finite).2 0
    rw [day] at survives ⊢
    exact survives fun _ shape => nomatch shape
  · have scalar : ofJson? (.decimal (-0.0)) = some (number (-0.0)) := rfl
    have finite : ((number (-0.0)).typed .derived).IsFinite := by
      change (-0.0 : Float).isFinite = true
      decide +kernel
    exact (survives_toJson scalar finite).1

end Cell

end FormReport
