import FormReport.Proofs.Comparison
import FormReport.Proofs.RowOrder

set_option autoImplicit false

/- Rows of totals. What makes a row one is told by its cells in the grouping columns, so it makes no
difference whether they are dropped before the rest is sorted or after. -/
namespace FormReport

namespace Cell

/-- What is left in the grouping columns of a row of totals. -/
def placeholders : List Cell :=
  [.missing, .number 0, .number (-0.0), .text "", .text "0", .date "", .date "0"]

theorem isTotalPlaceholder_iff {cell : Cell} :
    cell.isTotalPlaceholder = true ↔ cell ∈ placeholders := by
  cases cell with
  | missing => decide
  | number x => simp [isTotalPlaceholder, placeholders, Number.beq_zero_iff_eq]
  | text value => simp [isTotalPlaceholder, placeholders]
  | date value => simp [isTotalPlaceholder, placeholders]

end Cell

namespace ResultRow

/-- Whether a row is kept: something other than a placeholder stands in a grouping column, or there are
no grouping columns. -/
def HoldsData (columns : List String) (row : ResultRow) : Prop :=
  columns = [] ∨
    ∃ column ∈ columns, ∃ cell, row.get? column = some cell ∧ cell ∉ Cell.placeholders

variable {columns : List String}

theorem isTotal_eq_false_iff {row : ResultRow} : isTotal columns row = false ↔
    ∃ column ∈ columns, ∃ cell, row.get? column = some cell ∧ cell ∉ Cell.placeholders := by
  rw [isTotal, List.all_eq_false]
  refine exists_congr fun column => and_congr_right fun _ => ?_
  cases row.get? column with
  | none => simp
  | some cell => simp [← Cell.isTotalPlaceholder_iff]

theorem holdsData_iff {row : ResultRow} :
    HoldsData columns row ↔ (columns.isEmpty || !isTotal columns row) = true := by
  rw [HoldsData, ← isTotal_eq_false_iff, Bool.or_eq_true, List.isEmpty_iff, Bool.not_eq_true']

instance (columns : List String) : DecidablePred (HoldsData columns) :=
  fun _ => decidable_of_iff _ holdsData_iff.symm

theorem dropTotals_eq (columns : List String) (rows : List ResultRow) :
    dropTotals columns rows = rows.filter fun row => HoldsData columns row := by
  simp only [holdsData_iff, Bool.decide_eq_true]
  unfold dropTotals
  cases columns.isEmpty with
  | true => exact (List.filter_eq_self.mpr fun _ _ => rfl).symm
  | false => rfl

/-- Dropping rows of totals and sorting do not depend on each other. Just the rows that hold data are
kept, all as they were, and the others are counted. -/
theorem sort_dropTotals (units : Char → List Char) (keys : List SortKey) (columns : List String)
    (rows : List ResultRow) :
    sort units keys (dropTotals columns rows) = dropTotals columns (sort units keys rows) ∧
      dropTotals columns rows = rows.filter (fun row => HoldsData columns row) ∧
      droppedTotals columns rows = rows.countP fun row => ¬ HoldsData columns row := by
  refine ⟨?_, dropTotals_eq columns rows, ?_⟩
  · calc sort units keys (dropTotals columns rows)
        = (rows.filter fun row => HoldsData columns row).mergeSort
            (notAfter (orderBy units keys)) := by
          rw [sort_eq, dropTotals_eq]
      _ = (rows.mergeSort (notAfter (orderBy units keys))).filter fun row => HoldsData columns row :=
          (filter_mergeSort _ rows).symm
      _ = dropTotals columns (sort units keys rows) := by rw [sort_eq, dropTotals_eq]
  · have all := rows.length_eq_countP_add_countP fun row => decide (HoldsData columns row)
    have kept : (dropTotals columns rows).length =
        rows.countP fun row => decide (HoldsData columns row) := by
      rw [dropTotals_eq, List.countP_eq_length_filter]
    unfold droppedTotals
    simp only [decide_not]
    simp only [decide_eq_true_eq, decide_not] at all
    omega

example : dropTotals ["pond"] [[("pond", .text "0"), ("stock", .number 2)], [("pond", .text "Koi")]] =
    [[("pond", .text "Koi")]] := by decide

end ResultRow

end FormReport
