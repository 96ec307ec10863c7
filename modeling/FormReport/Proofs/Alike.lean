import FormReport.Proofs.Meaning
import FormReport.Proofs.Spelling

set_option autoImplicit false

/- The sign of zero is of no account to what is computed. Cells with one text are one number to a
calculation unless one of them is a date. -/
namespace FormReport

namespace Number

open Float.Model (Format UnpackedFloat)
open Float.Model.UnpackedFloat

/-- Whether a value that is taken apart is a zero. -/
def IsZero (value : UnpackedFloat) : Prop := ∃ sign, value = .zero sign

theorem isZero_zero (sign : Sign) : IsZero (.zero sign) := ⟨sign, rfl⟩

theorem isZero_ite {condition : Prop} [Decidable condition] {first second : UnpackedFloat}
    (one : IsZero first) (two : IsZero second) : IsZero (if condition then first else second) := by
  split <;> assumption

/-- Whether two values that are taken apart are the same, but for the sign of zero. -/
def Similar (first second : UnpackedFloat) : Prop :=
  first = second ∨ IsZero first ∧ IsZero second

theorem Similar.trans {first second third : UnpackedFloat} (one : Similar first second)
    (two : Similar second third) : Similar first third := by
  rcases one with rfl | ⟨left, _⟩
  · exact two
  · rcases two with rfl | ⟨_, right⟩
    · exact .inr ⟨left, by assumption⟩
    · exact .inr ⟨left, right⟩

theorem Similar.neg {first second : UnpackedFloat} (same : Similar first second) :
    Similar first.neg second.neg := by
  rcases same with rfl | ⟨⟨_, rfl⟩, ⟨_, rfl⟩⟩
  · exact .inl rfl
  · exact .inr ⟨isZero_zero _, isZero_zero _⟩

/-- Whether the sign of a zero on the left shows in a result only as the sign of a zero. -/
def BlindLeft (operation : UnpackedFloat → UnpackedFloat → UnpackedFloat) : Prop :=
  ∀ sign another other, Similar (operation (.zero sign) other) (operation (.zero another) other)

theorem BlindLeft.similar {operation : UnpackedFloat → UnpackedFloat → UnpackedFloat}
    (blind : BlindLeft operation) {first second : UnpackedFloat} (same : Similar first second)
    (other : UnpackedFloat) : Similar (operation first other) (operation second other) := by
  rcases same with rfl | ⟨⟨sign, rfl⟩, ⟨another, rfl⟩⟩
  · exact .inl rfl
  · exact blind sign another other

theorem isZero_add (sign other : Sign) : IsZero (add Format.binary64 (.zero sign) (.zero other)) :=
  isZero_ite (isZero_zero _) (isZero_zero _)

theorem isZero_sub (sign other : Sign) : IsZero (sub Format.binary64 (.zero sign) (.zero other)) :=
  isZero_ite (isZero_zero _) (isZero_zero _)

theorem blindLeft_add : BlindLeft (add Format.binary64) := by
  intro sign another other
  cases other with
  | zero => exact .inr ⟨isZero_add _ _, isZero_add _ _⟩
  | _ => exact .inl rfl

theorem blindRight_add : BlindLeft fun right left => add Format.binary64 left right := by
  intro sign another other
  cases other with
  | zero => exact .inr ⟨isZero_add _ _, isZero_add _ _⟩
  | _ => exact .inl rfl

theorem blindLeft_sub : BlindLeft (sub Format.binary64) := by
  intro sign another other
  cases other with
  | zero => exact .inr ⟨isZero_sub _ _, isZero_sub _ _⟩
  | _ => exact .inl rfl

theorem blindRight_sub : BlindLeft fun right left => sub Format.binary64 left right := by
  intro sign another other
  cases other with
  | zero => exact .inr ⟨isZero_sub _ _, isZero_sub _ _⟩
  | _ => exact .inl rfl

theorem blindLeft_mul : BlindLeft (mul Format.binary64) := by
  intro sign another other
  cases other <;> first | exact .inl rfl | exact .inr ⟨isZero_zero _, isZero_zero _⟩

theorem blindRight_mul : BlindLeft fun right left => mul Format.binary64 left right := by
  intro sign another other
  cases other <;> first | exact .inl rfl | exact .inr ⟨isZero_zero _, isZero_zero _⟩

/-- A division shows the sign of a zero that it divides by, but not of one that is divided. -/
theorem blindLeft_div : BlindLeft (div Format.binary64) := by
  intro sign another other
  cases other <;> first | exact .inl rfl | exact .inr ⟨isZero_zero _, isZero_zero _⟩

namespace Alike

variable {x y left right : Float}

theorem similar (same : Alike x y) : Similar x.toModel.unpack y.toModel.unpack := by
  rcases same with rfl | ⟨one, two⟩
  · exact .inl rfl
  · exact .inr ⟨(beq_zero_iff x).mp one, (beq_zero_iff y).mp two⟩

theorem beq_zero_pack (sign : Sign) : (Float.ofModel (.pack (.zero sign)) == 0) = true := by
  cases sign <;> rfl

theorem of_similar {first second : UnpackedFloat} (same : Similar first second) :
    Alike (Float.ofModel (.pack first)) (Float.ofModel (.pack second)) := by
  rcases same with rfl | ⟨⟨_, rfl⟩, ⟨_, rfl⟩⟩
  · exact .inl rfl
  · exact .inr ⟨beq_zero_pack _, beq_zero_pack _⟩

theorem refl (x : Float) : Alike x x := .inl rfl

theorem symm (same : Alike x y) : Alike y x := same.imp Eq.symm And.symm

theorem trans (same : Alike x y) (also : Alike y left) : Alike x left := by
  rcases same with rfl | ⟨one, two⟩
  · exact also
  · rcases also with rfl | ⟨_, three⟩
    · exact .inr ⟨one, two⟩
    · exact .inr ⟨one, three⟩

theorem beq_zero (same : Alike x y) : (x == 0) = (y == 0) := by
  rcases same with rfl | ⟨one, two⟩
  · rfl
  · rw [one, two]

theorem isFinite (same : Alike x y) : x.isFinite = y.isFinite := by
  rcases same with rfl | ⟨one, two⟩
  · rfl
  · rw [isFinite_of_zero one, isFinite_of_zero two]

theorem neg (same : Alike x y) : Alike (-x) (-y) := of_similar same.similar.neg

/-- Operands that are alike give results that are alike, unless they divide by zero. -/
theorem rounded {operator : Operator} (same : Alike x y) (also : Alike left right)
    (whole : operator = .div → (left == 0) = false) :
    Alike (operator.rounded x left) (operator.rounded y right) := by
  cases operator with
  | add =>
    exact of_similar ((blindLeft_add.similar same.similar _).trans
      (blindRight_add.similar also.similar _))
  | sub =>
    exact of_similar ((blindLeft_sub.similar same.similar _).trans
      (blindRight_sub.similar also.similar _))
  | mul =>
    exact of_similar ((blindLeft_mul.similar same.similar _).trans
      (blindRight_mul.similar also.similar _))
  | div =>
    rcases also with rfl | ⟨zero, _⟩
    · exact of_similar (blindLeft_div.similar same.similar _)
    · rw [whole rfl] at zero
      cases zero

end Alike

end Number

open Number (Alike)

theorem Operator.apply_alike {operator : Operator} {x y left right : Float} (same : Alike x y)
    (also : Alike left right) :
    Option.Rel Alike (operator.apply x left) (operator.apply y right) := by
  rw [apply_eq, apply_eq, ← also.beq_zero]
  by_cases nothing : operator = .div ∧ (left == 0) = true
  · rw [if_pos nothing, if_pos nothing]
    exact .none
  · have alike : Alike (operator.rounded x left) (operator.rounded y right) :=
      same.rounded also fun divides => by simpa [divides] using nothing
    rw [if_neg nothing, if_neg nothing, ← alike.isFinite]
    split
    · exact .some alike
    · exact .none

namespace Number

/-- Whether two readings are both nothing or numbers that are alike. -/
abbrev AlikeIfAny : Option Float → Option Float → Prop := Option.Rel Alike

namespace AlikeIfAny

theorem refl (x? : Option Float) : AlikeIfAny x? x? := by
  cases x? with
  | none => exact .none
  | some x => exact .some (.refl x)

theorem symm {x? y? : Option Float} (same : AlikeIfAny x? y?) : AlikeIfAny y? x? := by
  cases same with
  | none => exact .none
  | some alike => exact .some alike.symm

theorem trans {x? y? z? : Option Float} (same : AlikeIfAny x? y?) (also : AlikeIfAny y? z?) :
    AlikeIfAny x? z? := by
  cases same with
  | none => exact also
  | some alike =>
    cases also with
    | some more => exact .some (alike.trans more)

theorem bind {x? y? : Option Float} {first second : Float → Option Float}
    (same : AlikeIfAny x? y?) (next : ∀ x y, Alike x y → AlikeIfAny (first x) (second y)) :
    AlikeIfAny (x?.bind first) (y?.bind second) := by
  cases same with
  | none => exact .none
  | some alike => exact next _ _ alike

theorem getD {x? y? : Option Float} (same : AlikeIfAny x? y?) : Alike (x?.getD 0) (y?.getD 0) := by
  cases same with
  | none => exact .refl 0
  | some alike => exact alike

end AlikeIfAny

end Number

open Number (AlikeIfAny)

theorem Expression.value_binary {α : Type} (number : α → Float) (operator : Operator)
    (left right : Expression α) : (binary operator left right).value number =
      (left.value number).bind fun x => (right.value number).bind fun y => operator.apply x y := by
  rw [value]
  cases left.value number with
  | none => rfl
  | some x =>
    cases right.value number with
    | none => rfl
    | some y => exact (Operator.apply_eq ..).symm

/-- Expressions over leaves that are alike have values that are alike. -/
theorem Expression.value_alike {α : Type} {first second : α → Float} {tree : Expression α}
    (same : ∀ leaf ∈ tree.leaves, Alike (first leaf) (second leaf)) :
    AlikeIfAny (tree.value first) (tree.value second) := by
  induction tree with
  | ref leaf => exact .some (same leaf (List.mem_singleton_self leaf))
  | number literal => exact .refl _
  | neg inner ih =>
    rw [value, value, Option.map_eq_bind, Option.map_eq_bind]
    exact (ih same).bind fun _ _ alike => .some alike.neg
  | binary operator left right left_ih right_ih =>
    obtain ⟨one, two⟩ := List.forall_mem_append.mp same
    rw [value_binary, value_binary]
    exact (left_ih one).bind fun _ _ alike =>
      (right_ih two).bind fun _ _ also => Operator.apply_alike alike also

theorem Expression.numberAt_ok {ε α : Type} {read : α → Except ε (Option Float)} {leaf : α}
    {x? : Option Float} (given : read leaf = .ok x?) : numberAt read leaf = x?.getD 0 := by
  rw [numberAt, given]
  cases x? <;> rfl

namespace Cell

/-- Whether two cells have one value; that of a number does not depend on the sign of a zero. -/
inductive Same : Cell → Cell → Prop
  | number {x y : Float} (alike : Alike x y) : Same (number x) (number y)
  | refl (cell : Cell) : Same cell cell

theorem Same.eq_of_ne_zero {x : Float} {cell : Cell} (same : Same (.number x) cell)
    (other : (x == 0) = false) : cell = .number x := by
  cases same with
  | refl => rfl
  | number alike =>
    rcases alike with rfl | ⟨zero, _⟩
    · rfl
    · rw [other] at zero
      cases zero

theorem same_ofNumber? {x? y? : Option Float} (alike : AlikeIfAny x? y?) :
    Same (ofNumber? x?) (ofNumber? y?) := by
  cases alike with
  | none => exact .refl missing
  | some alike => exact .number alike

/-- Whether a cell is a date, which is no number whatever its text. -/
def isDate : Cell → Bool
  | date _ => true
  | _ => false

/-- Cells with one text are read as one number, if neither is a date or both are. -/
theorem number?_alike {cell other : Cell} (same : cell.groupKey = other.groupKey)
    (dates : cell.isDate = other.isDate) : AlikeIfAny cell.number? other.number? := by
  cases cell with
  | missing =>
    cases other with
    | missing => exact .none
    | _ => cases same
  | date value =>
    cases other with
    | date another => exact .none
    | _ => cases dates
  | text value =>
    cases other with
    | text another =>
      cases same
      exact .refl _
    | number y =>
      cases same
      exact .symm (Number.number_cellText y)
    | date another => cases dates
    | missing => cases same
  | number x =>
    cases other with
    | text another =>
      cases same
      exact Number.number_cellText x
    | number y =>
      have read := Number.number_cellText x
      rw [Option.some.inj same] at read
      exact .trans read (.symm (Number.number_cellText y))
    | date another => cases dates
    | missing => cases same

end Cell

end FormReport
