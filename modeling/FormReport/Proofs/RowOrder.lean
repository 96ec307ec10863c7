import FormReport.Proofs.CellOrder
import FormReport.Run.Finish
import Mathlib.Data.List.Basic

set_option autoImplicit false

/- The order of finished rows. The keys are tried in turn, and the first that does not tie two rows says
which of them comes first. Sorting gives the one arrangement of the rows that is in this order and leaves
tied rows as they were. -/
namespace FormReport

open Std

section StableSort

variable {α : Type}

/-- Whether a value may stand before another. -/
def notAfter (order : α → α → Ordering) (left right : α) : Bool := order left right != .gt

/-- The values that an order does not tell from a given one. -/
def tiedWith (order : α → α → Ordering) (value : α) (values : List α) : List α :=
  values.filter (order value · == .eq)

variable {order : α → α → Ordering}

theorem notAfter_iff {left right : α} :
    notAfter order left right = true ↔ order left right ≠ .gt := bne_iff_ne

theorem mem_tiedWith {value other : α} {values : List α} :
    other ∈ tiedWith order value values ↔ other ∈ values ∧ order value other = .eq := by
  rw [tiedWith, List.mem_filter, beq_iff_eq]

variable [TransCmp order]

theorem notAfter_trans (first second third : α) (before : notAfter order first second = true)
    (after : notAfter order second third = true) : notAfter order first third = true := by
  rw [notAfter_iff, ne_eq, Ordering.ne_gt_iff_isLE] at before after ⊢
  exact TransCmp.isLE_trans before after

theorem notAfter_total (left right : α) :
    (notAfter order left right || notAfter order right left) = true := by
  have swapped : order right left = (order left right).swap := OrientedCmp.eq_swap
  rw [notAfter, notAfter, swapped]
  cases order left right <;> rfl

theorem eq_of_notAfter {left right : α} (one : notAfter order left right = true)
    (other : notAfter order right left = true) : order left right = .eq := by
  rw [notAfter_iff] at one other
  rw [ne_eq, OrientedCmp.gt_iff_lt] at other
  cases compared : order left right with
  | lt => exact absurd compared other
  | eq => rfl
  | gt => exact absurd compared one

theorem pairwise_mergeSort_notAfter (values : List α) :
    (values.mergeSort (notAfter order)).Pairwise fun left right => notAfter order left right :=
  List.pairwise_mergeSort notAfter_trans notAfter_total values

/-- Values that are tied with one are tied with each other, so they are in order as they stand. -/
theorem pairwise_tiedWith (value : α) (values : List α) :
    (tiedWith order value values).Pairwise fun left right => notAfter order left right := by
  apply List.pairwise_of_forall_mem_list
  intro left first right second
  have before := OrientedCmp.eq_comm.mp (mem_tiedWith.mp first).2
  have after := (mem_tiedWith.mp second).2
  rw [notAfter_iff, TransCmp.eq_trans before after]
  decide

/-- A stable sort moves no value past one that it is tied with. -/
theorem tiedWith_mergeSort (value : α) (values : List α) :
    tiedWith order value (values.mergeSort (notAfter order)) = tiedWith order value values := by
  have kept : (tiedWith order value values).Sublist (values.mergeSort (notAfter order)) :=
    List.sublist_mergeSort notAfter_trans notAfter_total (pairwise_tiedWith value values)
      List.filter_sublist
  have inside := kept.filter (order value · == .eq)
  simp only [tiedWith, List.filter_filter, Bool.and_self] at inside
  have moved := (List.mergeSort_perm values (notAfter order)).filter (order value · == .eq)
  exact (inside.eq_of_length moved.length_eq.symm).symm

theorem mem_iff_of_tiedWith {first second : List α}
    (tied : ∀ value, tiedWith order value first = tiedWith order value second) {value : α} :
    value ∈ first ↔ value ∈ second := by
  have own (values : List α) : value ∈ values ↔ value ∈ tiedWith order value values := by
    rw [mem_tiedWith, and_iff_left ReflCmp.compare_self]
  rw [own first, own second, tied]

/-- An arrangement in order is known once it is known for all values that are tied with one. -/
theorem eq_of_tiedWith {first second : List α}
    (sorted : first.Pairwise fun left right => notAfter order left right)
    (again : second.Pairwise fun left right => notAfter order left right)
    (tied : ∀ value, tiedWith order value first = tiedWith order value second) :
    first = second := by
  induction first generalizing second with
  | nil =>
    refine (List.eq_nil_iff_forall_not_mem.mpr fun value inside => ?_).symm
    exact List.not_mem_nil ((mem_iff_of_tiedWith tied).mpr inside)
  | cons head rest ih =>
    cases second with
    | nil => exact absurd ((mem_iff_of_tiedWith tied).mp List.mem_cons_self) List.not_mem_nil
    | cons other others =>
      obtain ⟨first, sortedRest⟩ := List.pairwise_cons.mp sorted
      obtain ⟨second, againRest⟩ := List.pairwise_cons.mp again
      -- Each of the two heads is in the other list, so neither can be after the other.
      have level : order head other = .eq := by
        rcases List.mem_cons.mp ((mem_iff_of_tiedWith tied).mp List.mem_cons_self) with
          rfl | later
        · exact ReflCmp.compare_self
        · rcases List.mem_cons.mp ((mem_iff_of_tiedWith tied).mpr List.mem_cons_self) with
            rfl | earlier
          · exact ReflCmp.compare_self
          · exact eq_of_notAfter (first other earlier) (second head later)
      have own : order head head = .eq := ReflCmp.compare_self
      have heads := tied head
      simp only [tiedWith, List.filter_cons, own, level, beq_self_eq_true, ↓reduceIte] at heads
      obtain ⟨rfl, _⟩ := List.cons.inj heads
      congr 1
      refine ih sortedRest againRest fun value => ?_
      have whole := tied value
      simp only [tiedWith, List.filter_cons] at whole ⊢
      split at whole
      · exact (List.cons.inj whole).2
      · exact whole

/-- It makes no difference whether values are left out before or after a stable sort. -/
theorem filter_mergeSort (keep : α → Bool) (values : List α) :
    (values.mergeSort (notAfter order)).filter keep =
      (values.filter keep).mergeSort (notAfter order) := by
  refine eq_of_tiedWith ((pairwise_mergeSort_notAfter values).filter keep)
    (pairwise_mergeSort_notAfter _) fun value => ?_
  calc tiedWith order value ((values.mergeSort (notAfter order)).filter keep)
      = (tiedWith order value (values.mergeSort (notAfter order))).filter keep :=
        List.filter_comm ..
    _ = (tiedWith order value values).filter keep := by rw [tiedWith_mergeSort]
    _ = tiedWith order value (values.filter keep) := List.filter_comm ..
    _ = tiedWith order value ((values.filter keep).mergeSort (notAfter order)) :=
        (tiedWith_mergeSort value _).symm

end StableSort

namespace ResultRow

/-- What a row shows in a column. A missing cell shows nothing. -/
def shown? (row : ResultRow) (column : String) : Option Cell :=
  (row.get? column).filter (!·.isMissing)

/-- Whether what one row shows comes before what another shows, where nothing comes last. -/
def Ahead (units : Char → List Char) : Option Cell → Option Cell → Prop
  | some left, some right => left.order units right = .lt
  | some _, none => True
  | none, _ => False

/-- Whether two rows show the same as far as the order of cells goes. -/
def Level (units : Char → List Char) : Option Cell → Option Cell → Prop
  | some left, some right => left.order units right = .eq
  | none, none => True
  | _, _ => False

end ResultRow

namespace SortKey

open ResultRow

/-- Whether a key wants one row before another. -/
def Before (units : Char → List Char) (key : SortKey) (left right : ResultRow) : Prop :=
  match key.direction with
  | .asc => Ahead units (left.shown? key.column) (right.shown? key.column)
  | .desc => Ahead units (right.shown? key.column) (left.shown? key.column)

def Ties (units : Char → List Char) (key : SortKey) (left right : ResultRow) : Prop :=
  Level units (left.shown? key.column) (right.shown? key.column)

end SortKey

namespace ResultRow

/-- Whether a row comes before another: some key wants it there, and all keys before that tie them. -/
def Before (units : Char → List Char) (keys : List SortKey) (left right : ResultRow) : Prop :=
  ∃ before key after, keys = before ++ key :: after ∧
    (∀ earlier ∈ before, earlier.Ties units left right) ∧ key.Before units left right

def Ties (units : Char → List Char) (keys : List SortKey) (left right : ResultRow) : Prop :=
  ∀ key ∈ keys, key.Ties units left right

variable {units : Char → List Char}

theorem getD_filter (cell? : Option Cell) :
    (cell?.filter (!·.isMissing)).getD .missing = cell?.getD .missing := by
  cases cell? with
  | none => rfl
  | some cell => cases cell <;> rfl

/-- Missing cells are last in the order of cells, so an absent cell can be taken for a missing one. -/
theorem orderCells_eq (left right : Option Cell) :
    orderCells units left right = (left.getD .missing).order units (right.getD .missing) := by
  have present {cell? : Option Cell} {cell : Cell} (shown : cell?.filter (!·.isMissing) = some cell) :
      cell ≠ .missing := by
    rintro rfl
    cases (Option.filter_eq_some_iff.mp shown).2
  rw [← getD_filter left, ← getD_filter right, orderCells]
  cases first : left.filter (!·.isMissing) with
  | none =>
    cases second : right.filter (!·.isMissing) with
    | none => exact ReflCmp.compare_self.symm
    | some cell =>
      exact (OrientedCmp.gt_iff_lt.mpr (Cell.order_missing (present second))).symm
  | some cell =>
    cases second : right.filter (!·.isMissing) with
    | none => exact (Cell.order_missing (present first)).symm
    | some other => rfl

instance transCmp_orderCells : TransCmp (orderCells units) := by
  have order : orderCells units =
      fun left right => (left.getD .missing).order units (right.getD .missing) :=
    funext fun left => funext fun right => orderCells_eq left right
  rw [order]
  exact transCmp_key (Option.getD · .missing) (Cell.order units)

theorem orderCells_eq_lt_iff {left right : Option Cell} : orderCells units left right = .lt ↔
    Ahead units (left.filter (!·.isMissing)) (right.filter (!·.isMissing)) := by
  unfold orderCells
  cases left.filter (!·.isMissing) <;> cases right.filter (!·.isMissing) <;>
    simp [Ahead]

theorem orderCells_eq_eq_iff {left right : Option Cell} : orderCells units left right = .eq ↔
    Level units (left.filter (!·.isMissing)) (right.filter (!·.isMissing)) := by
  unfold orderCells
  cases left.filter (!·.isMissing) <;> cases right.filter (!·.isMissing) <;>
    simp [Level]

variable {key : SortKey} {keys : List SortKey} {left right : ResultRow}

theorem orderByKey_eq_lt_iff :
    orderByKey units key left right = .lt ↔ key.Before units left right := by
  obtain ⟨column, direction⟩ := key
  cases direction with
  | asc => exact orderCells_eq_lt_iff
  | desc => exact Ordering.swap_eq_lt.trans (OrientedCmp.gt_iff_lt.trans orderCells_eq_lt_iff)

theorem orderByKey_eq_eq_iff :
    orderByKey units key left right = .eq ↔ key.Ties units left right := by
  obtain ⟨column, direction⟩ := key
  cases direction with
  | asc => exact orderCells_eq_eq_iff
  | desc => exact Ordering.swap_eq_eq.trans orderCells_eq_eq_iff

instance transCmp_orderByKey (key : SortKey) : TransCmp (orderByKey units key) := by
  have cells := transCmp_key (fun row : ResultRow => row.get? key.column) (orderCells units)
  unfold orderByKey
  cases key.direction with
  | asc => exact cells
  | desc =>
    have reversed (left right : ResultRow) :
        (orderCells units (left.get? key.column) (right.get? key.column)).swap =
          orderCells units (right.get? key.column) (left.get? key.column) := OrientedCmp.eq_swap.symm
    simp only [reversed]
    exact TransCmp.opposite

instance transCmp_orderBy (keys : List SortKey) : TransCmp (orderBy units keys) := by
  induction keys with
  | nil => exact { eq_swap := rfl, isLE_trans := fun _ _ => rfl }
  | cons key rest ih =>
    exact inferInstanceAs (TransCmp (compareLex (orderByKey units key) (orderBy units rest)))

theorem orderBy_eq_eq_iff : orderBy units keys left right = .eq ↔ Ties units keys left right := by
  induction keys with
  | nil => exact iff_of_true rfl nofun
  | cons key rest ih =>
    rw [orderBy, Ordering.then_eq_eq, orderByKey_eq_eq_iff, ih, Ties, Ties, List.forall_mem_cons]

theorem before_cons_iff : Before units (key :: keys) left right ↔
    key.Before units left right ∨ key.Ties units left right ∧ Before units keys left right := by
  constructor
  · rintro ⟨before, decisive, after, split, tied, wanted⟩
    rcases List.cons_eq_append_iff.mp split with ⟨rfl, same⟩ | ⟨others, rfl, same⟩
    · cases same
      exact .inl wanted
    · obtain ⟨first, tied⟩ := List.forall_mem_cons.mp tied
      exact .inr ⟨first, others, decisive, after, same, tied, wanted⟩
  · rintro (wanted | ⟨first, before, decisive, after, rfl, tied, wanted⟩)
    · exact ⟨[], key, keys, rfl, nofun, wanted⟩
    · exact ⟨key :: before, decisive, after, rfl, List.forall_mem_cons.mpr ⟨first, tied⟩, wanted⟩

theorem orderBy_eq_lt_iff : orderBy units keys left right = .lt ↔ Before units keys left right := by
  induction keys with
  | nil =>
    refine iff_of_false nofun ?_
    rintro ⟨before, key, after, split, _⟩
    cases before <;> cases split
  | cons key rest ih =>
    rw [orderBy, Ordering.then_eq_lt, orderByKey_eq_lt_iff, orderByKey_eq_eq_iff, ih,
      before_cons_iff]

instance (keys : List SortKey) (left right : ResultRow) : Decidable (Ties units keys left right) :=
  decidable_of_iff _ orderBy_eq_eq_iff

theorem tiedWith_orderBy (keys : List SortKey) (row : ResultRow) (rows : List ResultRow) :
    tiedWith (orderBy units keys) row rows = rows.filter fun other => Ties units keys row other := by
  refine List.filter_congr fun other _ => ?_
  rw [Bool.eq_iff_iff, beq_iff_eq, decide_eq_true_eq, orderBy_eq_eq_iff]

/-- A row may stand before another when it comes before it or is tied with it, and then the other does
not come before. -/
theorem notAfter_orderBy_iff : notAfter (orderBy units keys) left right = true ↔
    (Before units keys left right ∨ Ties units keys left right) ∧ ¬ Before units keys right left := by
  have swapped : orderBy units keys right left = (orderBy units keys left right).swap :=
    OrientedCmp.eq_swap
  rw [notAfter_iff, ← orderBy_eq_lt_iff, ← orderBy_eq_eq_iff, ← orderBy_eq_lt_iff, swapped]
  cases orderBy units keys left right <;> decide

theorem sort_eq (keys : List SortKey) (rows : List ResultRow) :
    sort units keys rows = rows.mergeSort (notAfter (orderBy units keys)) := by
  unfold sort
  split
  · rename_i none
    rw [List.isEmpty_iff.mp none]
    exact (List.mergeSort_of_pairwise (List.pairwise_of_forall_mem_list fun _ _ _ _ => rfl)).symm
  · rfl

/-- Whether rows are an arrangement of others in the order of some keys, with tied rows as they were. -/
structure IsStableSort (units : Char → List Char) (keys : List SortKey)
    (rows sorted : List ResultRow) : Prop where
  perm : sorted.Perm rows
  ordered : sorted.Pairwise fun row later =>
    (Before units keys row later ∨ Ties units keys row later) ∧ ¬ Before units keys later row
  stable (row : ResultRow) : (sorted.filter fun other => Ties units keys row other) =
    rows.filter fun other => Ties units keys row other

theorem isStableSort_sort (units : Char → List Char) (keys : List SortKey)
    (rows : List ResultRow) :
    IsStableSort units keys rows (sort units keys rows) := by
  rw [sort_eq]
  refine ⟨List.mergeSort_perm .., ?_, fun row => ?_⟩
  · exact (pairwise_mergeSort_notAfter rows).imp notAfter_orderBy_iff.mp
  · rw [← tiedWith_orderBy, ← tiedWith_orderBy, tiedWith_mergeSort]

theorem IsStableSort.unique {rows first second : List ResultRow}
    (one : IsStableSort units keys rows first) (two : IsStableSort units keys rows second) :
    first = second := by
  refine eq_of_tiedWith (one.ordered.imp notAfter_orderBy_iff.mpr)
    (two.ordered.imp notAfter_orderBy_iff.mpr) fun row => ?_
  rw [tiedWith_orderBy, tiedWith_orderBy, one.stable, two.stable]

/-- Sorting is the stable sort by the keys: it is the only arrangement of the rows in the order of the
keys that leaves tied rows as they were. Sorting once more changes nothing. -/
theorem isStableSort_iff_eq_sort (units : Char → List Char) (keys : List SortKey)
    (rows sorted : List ResultRow) :
    (IsStableSort units keys rows sorted ↔ sorted = sort units keys rows) ∧
      sort units keys (sort units keys rows) = sort units keys rows := by
  have once := isStableSort_sort units keys rows
  refine ⟨⟨fun arranged => arranged.unique once, fun same => same ▸ once⟩, ?_⟩
  exact (isStableSort_sort units keys (sort units keys rows)).unique
    ⟨.refl _, once.ordered, fun _ => rfl⟩

example : orderBy Text.lowerUnits [⟨"pond", .desc⟩, ⟨"stock", .asc⟩] [("stock", .number 1)]
    [("pond", .missing), ("stock", .text "none")] = .lt := by decide

end ResultRow

end FormReport
