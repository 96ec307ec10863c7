import FormReport.Proofs.Sequence
import FormReport.Run.Row

set_option autoImplicit false

/- What is read from a stored row: the first value under the keys of an accessor that says anything,
else what the formula for the row's form gives. -/
namespace FormReport

/-- Whether a stored value says anything. Null and the empty text do not. -/
def Json.isMeaningful : Json → Bool
  | null => false
  | text value => !value.isEmpty
  | _ => true

theorem Cell.isBlank_of_ofJson? {stored : Json} {cell : Cell} (made : ofJson? stored = some cell) :
    cell.isBlank = !stored.isMeaningful := by
  cases stored with
  | bool value =>
    cases made
    cases value <;> rfl
  | text value =>
    cases made
    exact (Bool.not_not _).symm
  | _ => cases made <;> rfl

theorem Cell.isMissing_of_ofJson? {stored : Json} {cell : Cell}
    (made : ofJson? stored = some cell) (meaningful : stored.isMeaningful = true) :
    cell.isMissing = false := by
  cases stored <;> cases made <;> first | rfl | cases meaningful

theorem Json.isMeaningful_of_nested {stored : Json} (nested : Cell.ofJson? stored = none) :
    stored.isMeaningful = true := by
  cases stored <;> first | rfl | cases nested

/-- What is read under some keys depends on what stands under them alone. -/
theorem probe_congr {fields others : Keyed Json} {keys : List String}
    (same : ∀ key ∈ keys, others.get? key = fields.get? key) :
    probe others keys = probe fields keys := by
  induction keys with
  | nil => rfl
  | cons key rest ih =>
    rw [probe, probe, same key List.mem_cons_self,
      ih fun other later => same other (List.mem_cons_of_mem _ later)]

namespace StoredRow

/-- The first of some keys under which something is stored, with the value. -/
def firstStored? (row : StoredRow) (keys : List String) : Option (String × Json) :=
  keys.findSome? fun key => ((row.fields.get? key).filter Json.isMeaningful).map (key, ·)

/-- What is stored under a key, if it says anything. -/
def stored? (row : StoredRow) (key : String) : Option Json :=
  (row.fields.get? key).filter Json.isMeaningful

theorem firstStored?_cons (row : StoredRow) (key : String) (rest : List String) :
    row.firstStored? (key :: rest) =
      match row.stored? key with
      | none => row.firstStored? rest
      | some value => some (key, value) := by
  rw [firstStored?, List.findSome?_cons, ← stored?]
  cases row.stored? key <;> rfl

theorem firstStored?_eq_none_iff {row : StoredRow} {keys : List String} :
    row.firstStored? keys = none ↔ ∀ key ∈ keys, row.stored? key = none := by
  rw [firstStored?, List.findSome?_eq_none_iff]
  exact forall₂_congr fun key _ => Option.map_eq_none_iff

theorem of_firstStored? {row : StoredRow} {keys : List String} {key : String} {value : Json}
    (found : row.firstStored? keys = some (key, value)) : key ∈ keys ∧ row.stored? key = some value := by
  obtain ⟨_, inside, hit⟩ := List.exists_of_findSome?_eq_some found
  obtain ⟨_, stored, same⟩ := Option.map_eq_some_iff.mp hit
  cases same
  exact ⟨inside, stored⟩

theorem mem_of_firstStored? {row : StoredRow} {keys : List String} {key : String} {value : Json}
    (found : row.firstStored? keys = some (key, value)) : key ∈ keys :=
  (of_firstStored? found).1

/-- The only key under which something is stored is the first one. -/
theorem firstStored?_of_only {row : StoredRow} {keys : List String} {key : String} {value : Json}
    (inside : key ∈ keys) (stored : row.stored? key = some value)
    (only : ∀ other ∈ keys, other ≠ key → row.stored? other = none) :
    row.firstStored? keys = some (key, value) := by
  induction keys with
  | nil => cases inside
  | cons first rest ih =>
    rw [firstStored?_cons]
    by_cases here : first = key
    · rw [here, stored]
    · rw [only first List.mem_cons_self here]
      exact ih ((List.mem_cons.mp inside).resolve_left (Ne.symm here))
        fun other later => only other (List.mem_cons_of_mem _ later)

/-- A row of a form with a value under one key and under no other. -/
def lone (formId key : String) (value : Json) : StoredRow := ⟨"1", formId, 0, [(key, value)]⟩

theorem stored?_lone {value : Json} (meaningful : value.isMeaningful = true) (formId key other : String) :
    (lone formId key value).stored? other = if other = key then some value else none := by
  rw [stored?, lone, Keyed.get?_cons, Keyed.get?_nil]
  split
  · exact Option.filter_eq_some_iff.mpr ⟨rfl, meaningful⟩
  · rfl

theorem firstStored?_lone {formId key : String} {value : Json} (meaningful : value.isMeaningful = true)
    {keys : List String} (inside : key ∈ keys) :
    (lone formId key value).firstStored? keys = some (key, value) := by
  refine firstStored?_of_only inside ((stored?_lone meaningful ..).trans (if_pos rfl)) ?_
  intro other _ apart
  exact (stored?_lone meaningful ..).trans (if_neg apart)

theorem isMeaningful_of_firstStored? {row : StoredRow} {keys : List String} {key : String}
    {value : Json} (found : row.firstStored? keys = some (key, value)) : value.isMeaningful = true :=
  (Option.filter_eq_some_iff.mp (of_firstStored? found).2).2

/-- What is wrong with a list or an object in the place of a value. -/
def notScalar (row : StoredRow) (key : String) : RunError :=
  .malformedPath row.recordId row.index s!"value under `{key}` is not a scalar"

/-- What is stored under a key as a cell of a type. -/
def typedAs (row : StoredRow) (key : String) (value : Json) (valueType : ValueType) :
    Except RunError Cell :=
  match Cell.ofJson? value with
  | none => .error (row.notScalar key)
  | some cell => .ok (cell.typed valueType)

/-- What a list of keys gives is decided by the first of them under which something is stored. -/
theorem probe_fields (row : StoredRow) (keys : List String) :
    FormReport.probe row.fields keys =
      match row.firstStored? keys with
      | none => .ok .missing
      | some (key, stored) =>
        match Cell.ofJson? stored with
        | none => .error key
        | some cell => .ok cell := by
  induction keys with
  | nil => rfl
  | cons key rest ih =>
    rw [FormReport.probe, firstStored?_cons, stored?]
    cases row.fields.get? key with
    | none => exact ih
    | some stored =>
      cases made : Cell.ofJson? stored with
      | none => simp only [Option.filter_some, Json.isMeaningful_of_nested made, ↓reduceIte, made]
      | some cell =>
        have blank := Cell.isBlank_of_ofJson? made
        cases meaningful : stored.isMeaningful with
        | true =>
          rw [meaningful] at blank
          simp only [Option.filter_some, meaningful, blank, made, ↓reduceIte]
          rfl
        | false =>
          rw [meaningful] at blank
          simp only [Option.filter_some, meaningful, blank, made]
          exact ih

theorem probe_eq (row : StoredRow) (keys : List String) :
    row.probe keys =
      match row.firstStored? keys with
      | none => .ok .missing
      | some (key, stored) =>
        match Cell.ofJson? stored with
        | none => .error (row.notScalar key)
        | some cell => .ok cell := by
  rw [probe, probe_fields]
  cases row.firstStored? keys with
  | none => rfl
  | some found =>
    dsimp only
    cases Cell.ofJson? found.2 <;> rfl

/-- The number that an accessor reads, if it reads one. -/
def reading (row : StoredRow) (accessor : Accessor) : Except RunError (Option Float) :=
  (row.read accessor).map Cell.number?

theorem derived_eq (row : StoredRow) (derivations : List (String × Expression Accessor)) :
    row.derived derivations =
      match Keyed.get? derivations row.formId with
      | none => .ok .missing
      | some formula => (formula.eval row.reading).map Cell.ofNumber? := by
  induction derivations with
  | nil => rfl
  | cons derivation rest ih =>
    obtain ⟨formId, formula⟩ := derivation
    rw [derived, Keyed.get?_cons]
    by_cases own : formId = row.formId
    · rw [if_pos own, if_pos own.symm, compute_eq_eval]
      change (formula.eval row.reading >>= _) = (formula.eval row.reading).map Cell.ofNumber?
      cases formula.eval row.reading <;> rfl
    · rw [if_neg own, if_neg fun same => own same.symm, ih]

theorem read_eq (row : StoredRow) (accessor : Accessor) :
    row.read accessor = row.probe accessor.keys >>= fun stored =>
      if stored.isMissing then row.derived accessor.derivations
      else .ok (stored.typed accessor.valueType) := by
  cases accessor
  rfl

/-- With a stored value nothing else is read. -/
theorem read_of_firstStored? {row : StoredRow} {accessor : Accessor} {key : String} {value : Json}
    (found : row.firstStored? accessor.keys = some (key, value)) :
    row.read accessor = row.typedAs key value accessor.valueType := by
  rw [read_eq, probe_eq, found, typedAs]
  dsimp only
  cases scalar : Cell.ofJson? value with
  | none => rfl
  | some cell =>
    have present := Cell.isMissing_of_ofJson? scalar (isMeaningful_of_firstStored? found)
    change (if cell.isMissing then _ else _) = _
    rw [present]
    rfl

/-- Without one the formulas are. -/
theorem read_of_firstStored?_eq_none {row : StoredRow} {accessor : Accessor}
    (nothing : row.firstStored? accessor.keys = none) :
    row.read accessor = row.derived accessor.derivations := by
  rw [read_eq, probe_eq, nothing]
  rfl

/-- All ways to read a cell: a scalar is stored under one of the keys, and is read under the type of the
field; or nothing is stored, and the formula for the row's form is computed, if there is one. -/
theorem cases_of_read {row : StoredRow} {accessor : Accessor} {cell : Cell}
    (read : row.read accessor = .ok cell) :
    (∃ key stored scalar, row.firstStored? accessor.keys = some (key, stored) ∧
      Cell.ofJson? stored = some scalar ∧ cell = scalar.typed accessor.valueType) ∨
    row.firstStored? accessor.keys = none ∧
      (Keyed.get? accessor.derivations row.formId = none ∧ cell = .missing ∨
        ∃ formula value, Keyed.get? accessor.derivations row.formId = some formula ∧
          formula.eval row.reading = .ok value ∧ cell = Cell.ofNumber? value) := by
  cases found : row.firstStored? accessor.keys with
  | some entry =>
    rw [read_of_firstStored? found, typedAs] at read
    split at read
    · cases read
    · rename_i scalar made
      cases read
      exact .inl ⟨entry.1, entry.2, scalar, rfl, made, rfl⟩
  | none =>
    rw [read_of_firstStored?_eq_none found, derived_eq] at read
    refine .inr ⟨rfl, ?_⟩
    split at read
    · rename_i none
      cases read
      exact .inl ⟨none, rfl⟩
    · rename_i formula own
      obtain ⟨value, evaluated, rfl⟩ := map_eq_ok.mp read
      exact .inr ⟨formula, value, own, evaluated, rfl⟩

end StoredRow

end FormReport
