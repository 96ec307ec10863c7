import FormReport.Cell.Order
import FormReport.Proofs.Encoding

set_option autoImplicit false

/- Cells are totally ordered, whatever they hold. A cell is compared by three keys in turn: its class, its
number and its text. The class decides which of the other two counts, so that columns of numbers, texts
and nothing are ordered by the keys. How characters are spelled does not matter to this. -/
namespace FormReport

open Std

/-- What is compared by a key is ordered as the keys are. -/
theorem transCmp_key {α β : Type} (key : α → β) (order : β → β → Ordering) [TransCmp order] :
    TransCmp fun left right => order (key left) (key right) where
  eq_swap := OrientedCmp.eq_swap
  isLE_trans := TransCmp.isLE_trans

namespace Number

theorem orderKey_injective : Function.Injective orderKey := by
  intro x y same
  have first := x.toBits.toNat_lt
  have second := y.toBits.toNat_lt
  have words : x.toBits.toNat = y.toBits.toNat := by
    simp only [orderKey, Nat.one_shiftLeft] at same
    split at same <;> split at same <;> omega
  exact eq_of_word_eq (BitVec.eq_of_toNat_eq words)

/-- The order of doubles tells all of them apart, both zeros too. -/
theorem order_eq_iff {x y : Float} : order x y = .eq ↔ x = y := by
  rw [order, LawfulEqCmp.compare_eq_iff_eq]
  exact orderKey_injective.eq_iff

end Number

namespace Text

instance transCmp_orderUnits : TransCmp orderUnits :=
  inferInstanceAs (TransCmp (compareLex (compareOn isLetterOrNumber) (compareOn Char.toNat)))

instance lawfulEqCmp_codes : LawfulEqCmp (compareOn Char.toNat) where
  compare_self := ReflCmp.compare_self
  eq_of_compare same := Char.toNat_inj.mp (LawfulEqOrd.eq_of_compare same)

instance transCmp_orderCodes : TransCmp orderCodes := transCmp_key String.toList _

theorem orderCodes_eq_iff {left right : String} : orderCodes left right = .eq ↔ left = right := by
  rw [orderCodes, LawfulEqCmp.compare_eq_iff_eq]
  exact String.toList_inj

variable {units : Char → List Char}

instance transCmp_spelled : TransCmp fun left right : String =>
    List.compareLex orderUnits (left.toList.flatMap units) (right.toList.flatMap units) :=
  transCmp_key (fun text : String => text.toList.flatMap units) (List.compareLex orderUnits)

instance transCmp_collate : TransCmp (collate units) :=
  inferInstanceAs (TransCmp (compareLex (fun left right : String =>
    List.compareLex orderUnits (left.toList.flatMap units) (right.toList.flatMap units)) orderCodes))

/-- Texts of one spelling are told apart by their characters. -/
theorem collate_eq_iff {left right : String} : collate units left right = .eq ↔ left = right := by
  constructor
  · intro same
    exact orderCodes_eq_iff.mp (Ordering.then_eq_eq.mp same).2
  · rintro rfl
    exact ReflCmp.compare_self

end Text

namespace Cell

variable {units : Char → List Char} {left right cell : Cell}

theorem rank_eq : cell.rank = if cell = .missing then 2 else if cell.number?.isSome then 0 else 1 := by
  cases cell <;> rfl

theorem rank_eq_zero_iff : cell.rank = 0 ↔ cell.number?.isSome = true := by
  rw [rank_eq]
  split
  case isTrue missing =>
    rw [missing]
    decide
  case isFalse =>
    split <;> simp_all

theorem rank_eq_two_iff : cell.rank = 2 ↔ cell = .missing := by
  rw [rank_eq]
  split
  case isTrue missing => exact iff_of_true rfl missing
  case isFalse present =>
    rw [iff_false_right present]
    split <;> decide

theorem number?_eq_none_iff_of_rank (same : left.rank = right.rank) :
    left.number? = none ↔ right.number? = none := by
  rw [← Option.not_isSome_iff_eq_none, ← Option.not_isSome_iff_eq_none, ← rank_eq_zero_iff,
    ← rank_eq_zero_iff, same]

/-- The number by which a cell is compared with others of its class. -/
def numberKey (cell : Cell) : Int := (cell.number?.map Number.orderKey).getD 0

/-- The text by which a cell is compared with others of its class, where numbers have none. -/
def textKey (cell : Cell) : String := if cell.number?.isSome then "" else cell.displayText

/-- The order of cells is that of their keys. -/
theorem order_eq_keys : order units = compareLex (compareOn rank) (compareLex (compareOn numberKey)
    fun left right => Text.collate units left.textKey right.textKey) := by
  funext left right
  unfold order compareLex compareOn
  cases classes : compare left.rank right.rank with
  | lt => rfl
  | gt => rfl
  | eq =>
    have both := number?_eq_none_iff_of_rank (Nat.compare_eq_eq.mp classes)
    cases first : left.number? with
    | none => simp [numberKey, textKey, first, both.mp first]
    | some x =>
      cases second : right.number? with
      | none => cases first.symm.trans (both.mpr second)
      | some y =>
        have texts : Text.collate units "" "" = .eq := Text.collate_eq_iff.mpr rfl
        simp [numberKey, textKey, first, second, texts, Number.order]

instance transCmp_textKey :
    TransCmp fun left right : Cell => Text.collate units left.textKey right.textKey :=
  transCmp_key textKey (Text.collate units)

instance transCmp_order : TransCmp (order units) := order_eq_keys ▸ inferInstance

/-- Cells of different classes are not compared any further. -/
theorem order_of_rank_lt (less : left.rank < right.rank) : order units left right = .lt := by
  rw [order, Nat.compare_eq_lt.mpr less]
  rfl

/-- A cell with nothing in it comes after all others. -/
theorem order_missing (present : cell ≠ .missing) : order units cell .missing = .lt := by
  apply order_of_rank_lt
  rw [rank_eq, if_neg present]
  split <;> decide

theorem order_eq_eq_iff : order units left right = .eq ↔
    (left = .missing ∧ right = .missing) ∨
      (∃ x, left.number? = some x ∧ right.number? = some x) ∨
      (left.number? = none ∧ right.number? = none ∧ left ≠ .missing ∧ right ≠ .missing ∧
        left.displayText = right.displayText) := by
  constructor
  · intro same
    obtain ⟨classes, same⟩ := Ordering.then_eq_eq.mp same
    have rank := Nat.compare_eq_eq.mp classes
    have both := number?_eq_none_iff_of_rank rank
    have missing : left = .missing ↔ right = .missing := by
      rw [← rank_eq_two_iff, ← rank_eq_two_iff, rank]
    cases first : left.number? with
    | none =>
      rw [first] at same
      by_cases nothing : left = .missing
      · exact .inl ⟨nothing, missing.mp nothing⟩
      · exact .inr (.inr ⟨rfl, both.mp first, nothing, mt missing.mpr nothing,
          Text.collate_eq_iff.mp same⟩)
    | some x =>
      cases second : right.number? with
      | none => cases first.symm.trans (both.mpr second)
      | some y =>
        rw [first, second] at same
        exact .inr (.inl ⟨x, rfl, congrArg some (Number.order_eq_iff.mp same).symm⟩)
  · rintro (⟨rfl, rfl⟩ | ⟨x, first, second⟩ | ⟨first, second, present, shown, same⟩)
    · exact ReflCmp.compare_self
    · have rank : left.rank = right.rank := by
        rw [rank_eq_zero_iff.mpr (first ▸ rfl), rank_eq_zero_iff.mpr (second ▸ rfl)]
      rw [order, Nat.compare_eq_eq.mpr rank, first, second]
      exact Number.order_eq_iff.mpr rfl
    · have rank : left.rank = right.rank := by
        rw [rank_eq, rank_eq, if_neg present, if_neg shown, first, second]
      rw [order, Nat.compare_eq_eq.mpr rank, first]
      exact Text.collate_eq_iff.mpr same

/-- What is expected of an order of cells. -/
structure IsCellOrder (order : Cell → Cell → Ordering) : Prop where
  refl (cell : Cell) : order cell cell = .eq
  swap (left right : Cell) : order right left = (order left right).swap
  trans {first second third : Cell} {outcome : Ordering} : order first second = outcome →
    order second third = outcome → order first third = outcome
  le_trans {first second third : Cell} : order first second ≠ .gt → order second third ≠ .gt →
    order first third ≠ .gt
  numbers_first {left right : Cell} : left.number?.isSome = true → right.number? = none →
    order left right = .lt
  missing_last {cell : Cell} : cell ≠ .missing → order cell .missing = .lt
  /-- Cells are in one place when nothing is in both, when they stand for one double, which the two zeros
  are not, or when neither stands for a number and both show the same text. A cell with nothing in it
  shows the empty text, but is not in the place of a cell with an empty text. -/
  eq_iff {left right : Cell} : order left right = .eq ↔
    (left = .missing ∧ right = .missing) ∨
      (∃ x, left.number? = some x ∧ right.number? = some x) ∨
      (left.number? = none ∧ right.number? = none ∧ left ≠ .missing ∧ right ≠ .missing ∧
        left.displayText = right.displayText)

/-- Cells are totally ordered, whatever the spelling of characters. -/
theorem isCellOrder (units : Char → List Char) : IsCellOrder (order units) where
  refl cell := ReflCmp.compare_self
  swap left right := OrientedCmp.eq_swap
  trans {first second third outcome} before after := by
    cases outcome with
    | lt => exact TransCmp.lt_trans before after
    | eq => exact TransCmp.eq_trans before after
    | gt => exact TransCmp.gt_trans before after
  le_trans before after := Ordering.ne_gt_iff_isLE.mpr (TransCmp.isLE_trans
    (Ordering.ne_gt_iff_isLE.mp before) (Ordering.ne_gt_iff_isLE.mp after))
  numbers_first := by
    intro left right number plain
    apply order_of_rank_lt
    rw [rank_eq_zero_iff.mpr number, Nat.pos_iff_ne_zero, ne_eq, rank_eq_zero_iff, plain]
    exact Bool.false_ne_true
  missing_last := order_missing
  eq_iff := order_eq_eq_iff

example : order Text.lowerUnits (.number (-0.0)) (.text "0") = .lt := by decide +kernel

/-- A cell with nothing in it comes after one with an empty text, although both show the same. -/
theorem order_missing_empty : ¬ (order Text.lowerUnits .missing (.text "") = .eq ↔
    (missing = .missing ∧ text "" = .missing) ∨
      (∃ x, missing.number? = some x ∧ (text "").number? = some x) ∨
      (missing.number? = none ∧ (text "").number? = none ∧
        missing.displayText = (text "").displayText)) := by
  have greater : order Text.lowerUnits .missing (.text "") = .gt := by decide
  have plain : (text "").number? = none := by decide
  intro claimed
  have equal := claimed.mpr (.inr (.inr ⟨rfl, plain, rfl⟩))
  cases greater.symm.trans equal

end Cell
end FormReport
