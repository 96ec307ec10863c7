import FormReport.Proofs.Comparison
import FormReport.Proofs.Headcount

set_option autoImplicit false

/- What an aggregate comes to over a list of cells. COUNT takes in the cells that are not blank, the
other functions those that are numbers; over all other cells an aggregate is blind. The infinities in
which the least and the greatest number begin are never shown. -/
namespace FormReport

/-- Whether a function takes in a cell. -/
def AggregateFunction.takes (function : AggregateFunction) (cell : Cell) : Bool :=
  match function with
  | .count => !cell.isBlank
  | _ => cell.number?.isSome

theorem AggregateFunction.takes_of_numeric {function : AggregateFunction} (numeric : function ≠ .count)
    (cell : Cell) : function.takes cell = cell.number?.isSome := by
  unfold takes
  split
  · contradiction
  · rfl

/-- The sum of numbers, from left to right and from zero. -/
def total (numbers : List Float) : Float := numbers.foldl (· + ·) 0

/-- Whether a number is one of several and beyond all of them. -/
def IsExtreme (beyond : Float → Float → Prop) (numbers : List Float) (x : Float) : Prop :=
  x ∈ numbers ∧ ∀ y ∈ numbers, beyond x y

/-- What a function of a list of cells comes to. -/
def AggregateFunction.Yields (function : AggregateFunction) (rounds : Bool) (cells : List Cell)
    (value : Float) : Prop :=
  let numbers := cells.filterMap Cell.number?
  match function with
  | .count => value = Float.ofNat (cells.countP fun cell => !cell.isBlank)
  | .sum => value = if rounds then Number.roundHalfAway (total numbers) else total numbers
  | .avg => value = if numbers = [] then 0 else total numbers / Float.ofNat numbers.length
  | .max => if numbers = [] then value = 0 else IsExtreme (fun x y => y ≤ x) numbers value
  | .min => if numbers = [] then value = 0 else IsExtreme (fun x y => x ≤ y) numbers value

theorem isFinite_of_mem_numbers {cells : List Cell} {x : Float}
    (inside : x ∈ cells.filterMap Cell.number?) : x.isFinite = true := by
  obtain ⟨cell, _, counted⟩ := List.mem_filterMap.mp inside
  exact Cell.isFinite_of_number? counted

section Extreme

variable {beyond : Float → Float → Prop} [DecidableRel beyond] {numbers : List Float}
  {start extreme value : Float}

/-- Whether a number is the start, before there are numbers, or else beyond all of them. -/
def Leads (beyond : Float → Float → Prop) (start : Float) (numbers : List Float) (x : Float) : Prop :=
  if numbers = [] then x = start else IsExtreme beyond numbers x

/-- A number is taken over if it is beyond all that were there before. Every number is beyond the start,
so that the first is taken over in any case. -/
theorem Leads.push (leads : Leads beyond start numbers extreme)
    (first : ∀ x, x.isFinite = true → beyond x start)
    (total : ∀ x y, x.isFinite = true → y.isFinite = true → beyond x y ∨ beyond y x)
    (trans : ∀ x y z, x.isFinite = true → y.isFinite = true → z.isFinite = true →
      beyond x y → beyond y z → beyond x z)
    (finite : ∀ x ∈ numbers ++ [value], x.isFinite = true) :
    Leads beyond start (numbers ++ [value]) (if beyond value extreme then value else extreme) := by
  have finiteValue := finite value (List.mem_append_right _ (List.mem_singleton_self _))
  have reflexive : beyond value value := (total value value finiteValue finiteValue).elim id id
  unfold Leads at leads ⊢
  rw [if_neg (List.append_ne_nil_of_right_ne_nil _ (List.cons_ne_nil _ _))]
  split at leads
  · rename_i none
    rw [none, leads, if_pos (first value finiteValue)]
    exact ⟨List.mem_singleton_self _, fun y only => List.mem_singleton.mp only ▸ reflexive⟩
  · obtain ⟨inside, others⟩ := leads
    have finiteExtreme := finite extreme (List.mem_append_left _ inside)
    split
    · rename_i ahead
      refine ⟨List.mem_append_right _ (List.mem_singleton_self _), fun y member => ?_⟩
      rcases List.mem_append.mp member with earlier | only
      · exact trans _ _ _ finiteValue finiteExtreme (finite y member) ahead (others y earlier)
      · exact List.mem_singleton.mp only ▸ reflexive
    · rename_i behind
      refine ⟨List.mem_append_left _ inside, fun y member => ?_⟩
      rcases List.mem_append.mp member with earlier | only
      · exact others y earlier
      · rw [List.mem_singleton.mp only]
        exact (total value extreme finiteValue finiteExtreme).resolve_left behind

end Extreme

namespace Accumulator

/-- What the state of an aggregate says of the numbers that were taken in. -/
structure Holds (state : Accumulator) (numbers : List Float) : Prop where
  count : state.count = numbers.length
  sum : state.sum = total numbers
  least : Leads (fun x y => x ≤ y) Number.infinity numbers state.least
  greatest : Leads (fun x y => y ≤ x) (-Number.infinity) numbers state.greatest

theorem holds_new (function : AggregateFunction) : (new function).Holds [] := ⟨rfl, rfl, rfl, rfl⟩

theorem Holds.pushNumber {state : Accumulator} {numbers : List Float} (holds : state.Holds numbers)
    {value : Float} (finite : ∀ x ∈ numbers ++ [value], x.isFinite = true) :
    (state.pushNumber value).Holds (numbers ++ [value]) where
  count := by
    rw [List.length_append, ← holds.count]
    rfl
  sum := by
    rw [total, List.foldl_append, ← total, ← holds.sum]
    rfl
  least := holds.least.push (fun _ => Number.le_infinity) (fun _ _ => Number.le_total_of_isFinite)
    (fun _ _ _ => Number.le_trans_of_isFinite) finite
  greatest := holds.greatest.push (fun _ => Number.neg_infinity_le)
    (fun _ _ first second => Number.le_total_of_isFinite second first)
    (fun _ _ _ first second third beyond further =>
      Number.le_trans_of_isFinite third second first further beyond) finite

theorem Holds.foldl_pushNumber {state : Accumulator} {taken : List Float}
    (holds : state.Holds taken) (numbers : List Float)
    (finite : ∀ x ∈ taken ++ numbers, x.isFinite = true) :
    (numbers.foldl Accumulator.pushNumber state).Holds (taken ++ numbers) := by
  induction numbers generalizing state taken with
  | nil => rwa [List.append_nil]
  | cons value rest ih =>
    rw [← List.singleton_append, ← List.append_assoc] at finite ⊢
    refine ih (holds.pushNumber fun x inside => ?_) finite
    exact finite x (List.mem_append_left _ inside)

/-- The other functions take in the number of a cell, if it has one. -/
theorem push_of_numeric {state : Accumulator} (numeric : state.function ≠ .count) (cell : Cell) :
    state.push cell = (cell.number?.map state.pushNumber).getD state := by
  unfold push
  split
  · contradiction
  · cases cell.number? <;> rfl

/-- A cell that is not taken in leaves no trace. -/
theorem push_of_not_takes {state : Accumulator} {cell : Cell}
    (idle : state.function.takes cell = false) : state.push cell = state := by
  by_cases counts : state.function = .count
  · rw [counts, AggregateFunction.takes, Bool.not_eq_false'] at idle
    simp only [push, counts, idle, ↓reduceIte]
  · rw [AggregateFunction.takes_of_numeric counts, Option.isSome_eq_false_iff,
      Option.isNone_iff_eq_none] at idle
    simp only [push_of_numeric counts, idle, Option.map_none, Option.getD_none]

/-- Only the cells that are taken in count, in their order. -/
theorem foldl_push_filter (state : Accumulator) (cells : List Cell) :
    (cells.filter state.function.takes).foldl push state = cells.foldl push state := by
  induction cells generalizing state with
  | nil => rfl
  | cons cell rest ih =>
    have pushed := ih (state.push cell)
    rw [function_push] at pushed
    rw [List.foldl_cons, List.filter_cons]
    split
    · exact pushed
    · rename_i idle
      rw [push_of_not_takes (Bool.eq_false_of_not_eq_true idle)]
      exact ih state

theorem foldl_push_of_numeric (state : Accumulator) (numeric : state.function ≠ .count)
    (cells : List Cell) : cells.foldl push state =
      (cells.filterMap Cell.number?).foldl pushNumber state := by
  induction cells generalizing state with
  | nil => rfl
  | cons cell rest ih =>
    rw [List.foldl_cons, push_of_numeric numeric, List.filterMap_cons]
    cases cell.number? with
    | none => exact ih state numeric
    | some value => exact ih (state.pushNumber value) numeric

theorem holds_foldl_push {function : AggregateFunction} (numeric : function ≠ .count)
    (cells : List Cell) :
    (cells.foldl push (new function)).Holds (cells.filterMap Cell.number?) := by
  rw [foldl_push_of_numeric (new function) numeric]
  exact (holds_new function).foldl_pushNumber _ fun _ => isFinite_of_mem_numbers

end Accumulator

namespace AggregateFunction

/-- What a function comes to over cells that are taken in one after the other. -/
def valueOf (function : AggregateFunction) (rounds : Bool) (cells : List Cell) : Float :=
  (cells.foldl Accumulator.push (.new function)).finish rounds

theorem valueOf_filter_takes (function : AggregateFunction) (rounds : Bool) (cells : List Cell) :
    function.valueOf rounds (cells.filter function.takes) = function.valueOf rounds cells :=
  congrArg (fun state => state.finish rounds)
    (Accumulator.foldl_push_filter (.new function) cells)

theorem valueOf_nil (function : AggregateFunction) (rounds : Bool) : function.valueOf rounds [] = 0 := rfl

theorem yields_count (rounds : Bool) (cells : List Cell) :
    Yields .count rounds cells (valueOf .count rounds cells) := by
  rw [valueOf, Accumulator.foldl_push_of_count _ rfl, Accumulator.finish, Yields]
  simp only [Accumulator.new, Nat.zero_add]
  split
  · rename_i none
    rw [none]
    rfl
  · rfl

/-- What the functions of numbers come to. Where there are no numbers none of them looks at its state. -/
theorem yields_numeric {function : AggregateFunction} (numeric : function ≠ .count) (rounds : Bool)
    (cells : List Cell) : function.Yields rounds cells (function.valueOf rounds cells) := by
  have known := Accumulator.function_foldl_push cells (.new function)
  have holds := Accumulator.holds_foldl_push numeric cells
  unfold valueOf Yields
  generalize cells.foldl Accumulator.push (.new function) = state at known holds
  generalize cells.filterMap Cell.number? = numbers at holds
  change state.function = function at known
  obtain ⟨count, sum, least, greatest⟩ := holds
  by_cases none : numbers = []
  · subst none
    have zero : state.finish rounds = 0 := if_pos count
    rw [zero]
    cases function with
    | count => contradiction
    | sum => cases rounds <;> rfl
    | avg => rfl
    | max => rfl
    | min => rfl
  · have some : state.count ≠ 0 := fun zero =>
      none (List.length_eq_zero_iff.mp (count.symm.trans zero))
    rw [Leads, if_neg none] at least greatest
    rw [Accumulator.finish, if_neg some, known, sum, count]
    cases function with
    | count => contradiction
    | sum => rfl
    | avg => exact (if_neg none).symm
    | max =>
      dsimp only
      rwa [if_neg none]
    | min =>
      dsimp only
      rwa [if_neg none]

/-- An aggregate is the count, the sum, the mean or an extreme of what its function takes in; cells that
are not taken in do not change it wherever they stand, and over nothing it is zero. -/
theorem yields_valueOf (function : AggregateFunction) (rounds : Bool) (cells : List Cell) :
    function.Yields rounds cells (function.valueOf rounds cells) ∧
      (∀ before idle after : List Cell, (∀ cell ∈ idle, function.takes cell = false) →
        function.valueOf rounds (before ++ idle ++ after) = function.valueOf rounds (before ++ after)) ∧
      ((∀ cell ∈ cells, function.takes cell = false) → function.valueOf rounds cells = 0) := by
  have nothing {idle : List Cell} (known : ∀ cell ∈ idle, function.takes cell = false) :
      idle.filter function.takes = [] :=
    List.filter_eq_nil_iff.mpr fun cell inside => Bool.not_eq_true _ ▸ known cell inside
  refine ⟨?_, ?_, ?_⟩
  · by_cases counts : function = .count
    · rw [counts]
      exact yields_count rounds cells
    · exact yields_numeric counts rounds cells
  · intro before idle after known
    rw [← valueOf_filter_takes, ← valueOf_filter_takes function rounds (before ++ after),
      List.filter_append, List.filter_append, nothing known, List.append_nil, List.filter_append]
  · intro known
    rw [← valueOf_filter_takes, nothing known]
    exact valueOf_nil function rounds

/-- A word is no number and is not weighed, and neither is a date. -/
theorem yields_valueOf_weights :
    valueOf .max false ([.text "3"] ++ [.text "carp", .missing] ++ [.number 7]) =
        valueOf .max false ([.text "3"] ++ [.number 7]) ∧
      valueOf .min false [.text "carp", .date "2024"] = 0 := by
  constructor
  · exact (yields_valueOf .max false []).2.1 _ _ _ (by decide +kernel)
  · exact (yields_valueOf .min false _).2.2 (by decide +kernel)

end AggregateFunction

end FormReport
