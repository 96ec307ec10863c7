import FormReport.Proofs.Alike
import FormReport.Proofs.Comparison
import FormReport.Proofs.Finiteness

set_option autoImplicit false

/- Groups of a field of numbers. The text by which rows are grouped stands for the number: whatever was
stored, cells fall together just when they are equal as numbers, and what is no number stays apart from
all numbers. -/
namespace FormReport

namespace Number

variable {x y : Float}

/-- Being alike is being equal as numbers. -/
theorem alike_iff_beq (finite : x.isFinite = true) (also : y.isFinite = true) :
    Alike x y ↔ (x == y) = true := by
  by_cases zeros : OppositeZeros x y
  · exact iff_of_true (.inr (oppositeZeros_iff.mp zeros).1) zeros.beq_and_order.1
  · rw [beq_iff_order finite also zeros, order_eq_iff]
    refine ⟨fun alike => ?_, .inl⟩
    rcases alike with same | both
    · exact same
    · by_contra different
      exact zeros (oppositeZeros_iff.mpr ⟨both, different⟩)

theorem Alike.cellText_eq (same : Alike x y) : cellText x = cellText y := by
  rcases same with rfl | ⟨zero, other⟩
  · rfl
  · rw [cellText_of_zero zero, cellText_of_zero other]

end Number

namespace Cell

open Number (Alike)

/-- What there is of a field of numbers: a stored value taken as a number if it can be, or whatever is
read for the field. -/
inductive OfNumberField : Cell → Prop
  | stored {stored : Json} {cell : Cell} (scalar : ofJson? stored = some cell) :
      OfNumberField (cell.typed .number)
  | read {row : StoredRow} {accessor : Accessor} {cell : Cell}
      (numeric : accessor.valueType = .number) (read : row.read accessor = .ok cell) :
      OfNumberField cell

/-- A cell of a field of numbers is a text only where the text is no number. -/
inductive Counted : Cell → Prop
  | missing : Counted missing
  | number (x : Float) : Counted (number x)
  | text {value : String} (unread : Number.ofText? value = none) : Counted (text value)

theorem counted_typed {cell : Cell} (undated : cell.isDate = false) :
    Counted (cell.typed .number) := by
  cases cell with
  | text value =>
    rw [typed]
    split
    · exact .number _
    · rename_i unread
      exact .text unread
  | number x => exact .number x
  | date value => cases undated
  | missing => exact .missing

theorem isDate_of_ofJson? {stored : Json} {cell : Cell} (scalar : ofJson? stored = some cell) :
    cell.isDate = false := by
  cases stored <;> cases scalar <;> rfl

theorem counted_ofNumber? (x? : Option Float) : Counted (ofNumber? x?) := by
  cases x? with
  | none => exact .missing
  | some x => exact .number x

theorem OfNumberField.counted {cell : Cell} (known : cell.OfNumberField) : cell.Counted := by
  cases known with
  | stored scalar => exact counted_typed (isDate_of_ofJson? scalar)
  | @read row accessor cell numeric read =>
    rcases StoredRow.cases_of_read read with ⟨_, _, _, _, scalar, rfl⟩ |
      ⟨_, ⟨_, rfl⟩ | ⟨_, x?, _, _, rfl⟩⟩
    · rw [numeric]
      exact counted_typed (isDate_of_ofJson? scalar)
    · exact .missing
    · exact counted_ofNumber? x?

theorem number?_number {x : Float} (finite : x.isFinite = true) : (number x).number? = some x :=
  if_pos finite

/-- A number and a text that is none are never written alike. -/
theorem groupKey_number_ne_text {x : Float} (finite : x.isFinite = true) {value : String}
    (unread : Number.ofText? value = none) : (number x).groupKey ≠ (text value).groupKey := by
  intro same
  have alike := number?_alike same rfl
  rw [number?_number finite, number?, unread] at alike
  cases alike

/-- Numbers are written alike just when they are equal. -/
theorem groupKey_number_eq_iff {x y : Float} (finite : x.isFinite = true) (also : y.isFinite = true) :
    (number x).groupKey = (number y).groupKey ↔ (x == y) = true := by
  rw [← Number.alike_iff_beq finite also]
  constructor
  · intro same
    have alike := number?_alike same rfl
    rw [number?_number finite, number?_number also] at alike
    cases alike with
    | some alike => exact alike
  · exact fun alike => congrArg some alike.cellText_eq

/-- The groups of a field of numbers are its numbers, whichever way they were written, the texts that are
no numbers, each for itself, and what is missing. -/
theorem groupKey_eq_iff {left right : Cell} (first : left.OfNumberField)
    (second : right.OfNumberField) (finite : left.IsFinite) (also : right.IsFinite) :
    left.groupKey = right.groupKey ↔
      (left = .missing ∧ right = .missing) ∨
      (∃ x y, left.number? = some x ∧ right.number? = some y ∧ (x == y) = true) ∨
      (left.number? = none ∧ right.number? = none ∧
        ∃ value, left = .text value ∧ right = .text value) := by
  cases first.counted with
  | missing => cases second.counted <;> simp [groupKey, number?]
  | number x =>
    have finite : x.isFinite = true := finite
    cases second.counted with
    | missing => simp [groupKey, number?]
    | number y =>
      have also : y.isFinite = true := also
      rw [groupKey_number_eq_iff finite also]
      simp [number?_number finite, number?_number also]
    | text unread =>
      refine iff_of_false (groupKey_number_ne_text finite unread) ?_
      simp [number?, unread]
  | @text value unread =>
    cases second.counted with
    | missing => simp [groupKey, number?]
    | number y =>
      refine iff_of_false (groupKey_number_ne_text also unread).symm ?_
      simp [number?, unread]
    | @text another other =>
      constructor
      · intro same
        cases same
        exact .inr (.inr ⟨unread, other, value, rfl, rfl⟩)
      · rintro (⟨impossible, _⟩ | ⟨x, _, counted, _⟩ | ⟨_, _, _, one, two⟩)
        · cases impossible
        · cases unread.symm.trans counted
        · rw [one, two]

/-- Ten is one group however it is written, and so is zero with either sign; a word is a group of its
own. -/
theorem groupKey_eq_iff_ten :
    ((text " 10.0 ").typed .number).groupKey = (number 10).groupKey ∧
      (number (-0.0)).groupKey = ((text "0e7").typed .number).groupKey ∧
      ((text "ten").typed .number).groupKey ≠ (number 10).groupKey := by
  have written (value : String) : OfNumberField ((text value).typed .number) :=
    .stored (show ofJson? (.text value) = some (text value) from rfl)
  have bounded (value : String) : ((text value).typed .number).IsFinite :=
    IsFinite.typed (show IsFinite (text value) from trivial) .number
  have stored (x : Float) : OfNumberField (number x) :=
    .stored (show ofJson? (.decimal x) = some (number x) from rfl)
  have blanks : (text " 10.0 ").typed .number = number 10 := by decide +kernel
  have exponent : (text "0e7").typed .number = number 0 := by decide +kernel
  have word : (text "ten").typed .number = text "ten" := by decide +kernel
  have finite : (10 : Float).isFinite = true := by decide +kernel
  have negative : (-0.0 : Float).isFinite = true := by decide +kernel
  refine ⟨?_, ?_, ?_⟩
  · refine (groupKey_eq_iff (written " 10.0 ") (stored 10) (bounded " 10.0 ") finite).mpr ?_
    exact .inr (.inl ⟨10, 10, by rw [blanks, number?_number finite], number?_number finite, rfl⟩)
  · refine (groupKey_eq_iff (stored (-0.0)) (written "0e7") negative (bounded "0e7")).mpr ?_
    exact .inr (.inl ⟨-0.0, 0, rfl, by rw [exponent]; rfl, rfl⟩)
  · refine (groupKey_eq_iff (written "ten") (stored 10) (bounded "ten") finite).not.mpr ?_
    rw [word]
    rintro (⟨impossible, _⟩ | ⟨_, _, counted, _⟩ | ⟨_, _, _, _, impossible⟩)
    · cases impossible
    · have unread : (text "ten").number? = none := by decide +kernel
      cases unread.symm.trans counted
    · cases impossible

end Cell

end FormReport
