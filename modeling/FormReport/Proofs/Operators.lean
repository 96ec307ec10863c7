import FormReport.Proofs.Comparison
import FormReport.Proofs.Finiteness
import FormReport.Run.Filter

set_option autoImplicit false

/- What the comparisons of a filter mean. They are taken off the order of cells, and that is the order of
numbers, but for the two zeros. -/
namespace FormReport

namespace FilterOperator

/-- What a comparison means between two numbers. -/
def OfNumbers (operator : FilterOperator) (x y : Float) : Prop :=
  match operator with
  | .eq => (x == y) = true
  | .ne => ¬ (x == y) = true
  | .gt => y < x
  | .gte => y ≤ x
  | .lt => x < y
  | .lte => x ≤ y
  | .contains => False

/-- What a comparison means between two cells that are no numbers. -/
def OfTexts (units : Char → List Char) (operator : FilterOperator) (left right : Cell) : Prop :=
  match operator with
  | .eq => left.displayText = right.displayText
  | .ne => left.displayText ≠ right.displayText
  | .gt => left.order units right = .gt
  | .gte => left.order units right ≠ .lt
  | .lt => left.order units right = .lt
  | .lte => left.order units right ≠ .gt
  | .contains => False

/-- What a comparison means between two cells of which one is blank. -/
def OfBlanks (operator : FilterOperator) (left right : Cell) : Prop :=
  match operator with
  | .eq => left.isBlank = true ∧ right.isBlank = true
  | .ne => left.isBlank ≠ right.isBlank
  | _ => False

/-- Whether a comparison holds between a cell and the operand of a filter. A number and a text can only
be unequal. -/
def Holds (units : Char → List Char) (operator : FilterOperator) (cell operand : Cell) : Prop :=
  if cell.isBlank ∨ operand.isBlank then operator.OfBlanks cell operand
  else
    match cell.number?, operand.number? with
    | some x, some y => operator.OfNumbers x y
    | none, none => operator.OfTexts units cell operand
    | _, _ => operator = .ne

end FilterOperator

namespace Cell

variable {units : Char → List Char} {left right : Cell}

theorem order_of_numbers {x y : Float} (first : left.number? = some x)
    (second : right.number? = some y) : left.order units right = Number.order x y := by
  have rank : left.rank = right.rank := by
    rw [rank_eq_zero_iff.mpr (first ▸ rfl), rank_eq_zero_iff.mpr (second ▸ rfl)]
  rw [order, Nat.compare_eq_eq.mpr rank, first, second]
  rfl

theorem ne_missing_of_not_blank {cell : Cell} (filled : cell.isBlank = false) : cell ≠ .missing := by
  rintro rfl
  cases filled

theorem isBlank_of_number? {cell : Cell} {x : Float} (counted : cell.number? = some x) :
    cell.isBlank = false := by
  cases cell with
  | number value => rfl
  | text value =>
    rw [isBlank, String.isEmpty_eq_false_iff]
    rintro rfl
    cases Number.ofText?_empty.symm.trans counted
  | date value => cases counted
  | missing => cases counted

/-- Whether two cells are the two zeros. -/
def OppositeZeros (left right : Cell) : Prop :=
  ∃ x ∈ left.number?, ∃ y ∈ right.number?, Number.OppositeZeros x y

/-- Of cells that are no numbers and not blank those with one text are in one place. -/
theorem order_of_texts (first : left.number? = none) (second : right.number? = none)
    (filled : left.isBlank = false) (also : right.isBlank = false) :
    left.order units right = .eq ↔ left.displayText = right.displayText := by
  rw [order_eq_eq_iff]
  simp [first, second, ne_missing_of_not_blank filled, ne_missing_of_not_blank also]

theorem order_of_number_and_text (apart : left.number?.isSome ≠ right.number?.isSome) :
    left.order units right ≠ .eq := by
  rw [ne_eq, order_eq_eq_iff]
  rintro (⟨rfl, rfl⟩ | ⟨x, first, second⟩ | ⟨first, second, _⟩)
  · exact apart rfl
  · exact apart (by rw [first, second])
  · exact apart (by rw [first, second])

end Cell

namespace FilterOperator

variable {units : Char → List Char}

/-- How a comparison goes by the order of two cells that are not blank, and by whether they are in order
at all. -/
def meets (operator : FilterOperator) (ordered : Bool) (order : Ordering) : Bool :=
  match operator with
  | .eq => order == .eq
  | .ne => order != .eq
  | .gt => ordered && order == .gt
  | .gte => ordered && order != .lt
  | .lt => ordered && order == .lt
  | .lte => ordered && order != .gt
  | .contains => false

theorem meets_ordered_iff_ofNumbers {operator : FilterOperator} {x y : Float}
    (finite : x.isFinite = true) (also : y.isFinite = true) (apart : ¬ Number.OppositeZeros x y) :
    operator.meets true (Number.order x y) = true ↔ operator.OfNumbers x y := by
  have reversed : ¬ Number.OppositeZeros y x := fun zeros => apart zeros.symm
  have swapped := Number.order_swap x y
  cases operator with
  | eq => simp [meets, OfNumbers, Number.beq_iff_order finite also apart]
  | ne => simp [meets, OfNumbers, Number.beq_iff_order finite also apart]
  | gt => simp [meets, OfNumbers, Number.lt_iff_order also finite reversed, swapped]
  | gte => simp [meets, OfNumbers, Number.le_iff_order also finite reversed, swapped]
  | lt => simp [meets, OfNumbers, Number.lt_iff_order finite also apart]
  | lte => simp [meets, OfNumbers, Number.le_iff_order finite also apart]
  | contains => simp [meets, OfNumbers]

theorem meets_ordered_iff_ofTexts {operator : FilterOperator} {left right : Cell}
    (texts : left.order units right = .eq ↔ left.displayText = right.displayText) :
    operator.meets true (left.order units right) = true ↔ operator.OfTexts units left right := by
  cases operator <;> simp [meets, OfTexts, texts]

theorem meets_unordered_iff {operator : FilterOperator} {order : Ordering} (unequal : order ≠ .eq) :
    operator.meets false order = true ↔ operator = .ne := by
  cases operator <;> simp [meets, unequal]

end FilterOperator

namespace RowFilter

open FilterOperator

variable {units : Char → List Char}

theorem accepts_of_blank {filter : RowFilter} {cell : Cell} (compares : filter.operator ≠ .contains)
    (blank : cell.isBlank = true ∨ filter.operand.isBlank = true) :
    filter.accepts units cell = true ↔ filter.operator.OfBlanks cell filter.operand := by
  obtain ⟨accessor, forms, operator, operand⟩ := filter
  have absent : (!cell.isBlank && !operand.isBlank) = false := by
    rcases blank with blank | blank <;> simp [blank]
  unfold accepts
  dsimp only
  rw [absent]
  cases operator with
  | contains => exact absurd rfl compares
  | ne => rcases blank with blank | blank <;> simp [OfBlanks, blank]
  | _ => simp [OfBlanks]

theorem accepts_of_filled {filter : RowFilter} {cell : Cell} (compares : filter.operator ≠ .contains)
    (filled : cell.isBlank = false) (also : filter.operand.isBlank = false) :
    filter.accepts units cell = filter.operator.meets
      (cell.number?.isSome == filter.operand.number?.isSome) (cell.order units filter.operand) := by
  obtain ⟨accessor, forms, operator, operand⟩ := filter
  unfold accepts
  dsimp only at compares also ⊢
  rw [filled, also]
  cases operator with
  | contains => exact absurd rfl compares
  | _ => rfl

theorem accepts_iff_holds_of_compares (filter : RowFilter) {cell : Cell}
    (compares : filter.operator ≠ .contains) (apart : ¬ cell.OppositeZeros filter.operand) :
    filter.accepts units cell = true ↔ filter.operator.Holds units cell filter.operand := by
  unfold Holds
  split
  case isTrue blank => exact accepts_of_blank compares blank
  case isFalse filled =>
    obtain ⟨filled, also⟩ := not_or.mp filled
    rw [Bool.not_eq_true] at filled also
    rw [accepts_of_filled compares filled also]
    cases first : cell.number? with
    | some x =>
      cases second : filter.operand.number? with
      | some y =>
        rw [Cell.order_of_numbers first second]
        exact meets_ordered_iff_ofNumbers (Cell.isFinite_of_number? first)
          (Cell.isFinite_of_number? second) fun zeros => apart ⟨x, first, y, second, zeros⟩
      | none =>
        exact meets_unordered_iff (Cell.order_of_number_and_text (by simp [first, second]))
    | none =>
      cases second : filter.operand.number? with
      | some y =>
        exact meets_unordered_iff (Cell.order_of_number_and_text (by simp [first, second]))
      | none => exact meets_ordered_iff_ofTexts (Cell.order_of_texts first second filled also)

/-- The two zeros are one number, but a filter does not take them for equal. -/
theorem accepts_of_oppositeZeros (filter : RowFilter) {cell : Cell} (equal : filter.operator = .eq)
    (zeros : cell.OppositeZeros filter.operand) :
    filter.accepts units cell = false ∧ filter.operator.Holds units cell filter.operand := by
  obtain ⟨x, first, y, second, zeros⟩ := zeros
  obtain ⟨same, apart⟩ := zeros.beq_and_order
  have filled := Cell.isBlank_of_number? first
  have also := Cell.isBlank_of_number? second
  constructor
  · rw [accepts_of_filled (by simp [equal]) filled also, equal, Cell.order_of_numbers first second]
    exact beq_eq_false_iff_ne.mpr apart
  · rw [equal, Holds, filled, also, first, second]
    exact same

/-- The comparisons of a filter mean what they say of every cell, unless the cell and the operand are the
two zeros, which are one number and stand in two places. Being unequal is always the opposite of being
equal. -/
theorem accepts_iff_holds (units : Char → List Char) (filter : RowFilter) (cell : Cell) :
    ((∀ operator ≠ .contains, ({ filter with operator }.accepts units cell = true ↔
        operator.Holds units cell filter.operand)) ↔ ¬ cell.OppositeZeros filter.operand) ∧
      { filter with operator := .ne }.accepts units cell =
        !{ filter with operator := .eq }.accepts units cell := by
  refine ⟨⟨fun meant zeros => ?_, fun apart operator compares => ?_⟩, ?_⟩
  · obtain ⟨rejected, holds⟩ :=
      accepts_of_oppositeZeros { filter with operator := .eq } rfl zeros
    rw [(meant .eq nofun).mpr holds] at rejected
    cases rejected
  · exact accepts_iff_holds_of_compares { filter with operator } compares apart
  · unfold accepts
    dsimp only
    split <;> rfl

/-- A filter on the change of a pond, which is what is taken out of it with the sign turned. -/
def changeFilter : RowFilter where
  accessor := ⟨["change", "Change"], .derived,
    [("pond", .neg (.ref ⟨["out", "Out"], .number, []⟩))]⟩
  forms := ["pond"]
  operator := .eq
  operand := .number 0

def calmRow : StoredRow := ⟨"r1", "pond", 0, [("out", .integer 0), ("note", .text "clear")]⟩

/-- Where nothing is taken out, the change is the other zero, and the row is left out. -/
theorem not_passes_of_holds : ∃ cell, calmRow.read changeFilter.accessor = .ok cell ∧
    changeFilter.operator.Holds Text.lowerUnits cell changeFilter.operand ∧
    changeFilter.passes Text.lowerUnits calmRow = .ok false := by
  refine ⟨.number (-0.0), ?_, ?_, ?_⟩
  · rfl
  · rfl
  · rfl

end RowFilter

end FormReport
