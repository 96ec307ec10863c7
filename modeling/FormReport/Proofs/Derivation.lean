import FormReport.Proofs.Meaning
import FormReport.Proofs.Reading
import Mathlib.Data.List.Induction

set_option autoImplicit false

/- What a field reads as, told from the form alone: a stored value if there is one, else the formula of
the field, whose names are read in the same way from the same row. Accessors hold these formulas
already put into one another, to any depth; they read the same. -/
namespace FormReport

namespace Expression

variable {ε α β : Type}

theorem value_congr {number other : α → Float} {tree : Expression α}
    (same : ∀ leaf ∈ tree.leaves, number leaf = other leaf) :
    tree.value number = tree.value other := by
  induction tree with
  | ref leaf => rw [value, value, same leaf (List.mem_singleton_self leaf)]
  | number literal => rfl
  | neg inner ih => rw [value, value, ih same]
  | binary operator left right left_ih right_ih =>
    rw [value, value, left_ih fun leaf inside => same leaf (List.mem_append_left _ inside),
      right_ih fun leaf inside => same leaf (List.mem_append_right _ inside)]

theorem interpret_congr {read other : α → Except ε (Option Float)} {tree : Expression α}
    (same : ∀ leaf ∈ tree.leaves, read leaf = other leaf) :
    tree.interpret read = tree.interpret other := by
  have numbers : tree.value (numberAt read) = tree.value (numberAt other) :=
    value_congr fun leaf inside => by rw [numberAt, numberAt, same leaf inside]
  rw [interpret, interpret, mapM_congr same, numbers]

/-- A substitution that succeeds has replaced every leaf. -/
theorem exists_part_of_substitute {replace : α → Except ε (Expression β)} {tree : Expression α}
    {formula : Expression β} (success : tree.substitute replace = .ok formula) :
    ∀ leaf ∈ tree.leaves, ∃ part, replace leaf = .ok part := by
  induction tree generalizing formula with
  | ref leaf =>
    intro other inside
    rw [List.mem_singleton.mp inside]
    exact ⟨formula, success⟩
  | number literal => exact nofun
  | neg inner ih =>
    obtain ⟨lowered, replaced, _⟩ := bind_eq_ok.mp success
    exact ih replaced
  | binary operator left right left_ih right_ih =>
    obtain ⟨first, replacedFirst, rest⟩ := bind_eq_ok.mp success
    obtain ⟨second, replacedSecond, _⟩ := bind_eq_ok.mp rest
    intro leaf inside
    rcases List.mem_append.mp inside with here | there
    · exact left_ih replacedFirst leaf here
    · exact right_ih replacedSecond leaf there

end Expression

/-- Repeated values add nothing to a search for the first hit. -/
theorem findSome?_eraseDups {α β : Type} [BEq α] [LawfulBEq α] (found? : α → Option β)
    (values : List α) : values.eraseDups.findSome? found? = values.findSome? found? := by
  induction values using List.reverseRecOn with
  | nil => rfl
  | append_singleton values value ih =>
    rw [eraseDups_concat, List.findSome?_append]
    split
    · rename_i seen
      rw [ih]
      cases earlier : values.findSome? found? with
      | some hit => rfl
      | none =>
        have missed := List.findSome?_eq_none_iff.mp earlier value seen
        simp [missed]
    · rw [List.findSome?_append, ih]

/-- Whether a fault is one of a formula: it cannot be read, it comes back to itself, or it names no field
of its form. -/
def PlanError.IsOfFormula : PlanError → Prop
  | .unknownReference _ => True
  | .invalidExpression _ _ => True
  | _ => False

theorem isOfFormula_of_parseFormula {source : String} {fault : PlanError}
    (failed : parseFormula source = .error fault) : fault.IsOfFormula := by
  unfold parseFormula at failed
  cases parsed : Expression.parse source <;> rw [parsed] at failed <;> cases failed
  trivial

/-- Every formula of a display name is the one that the name has in some form. -/
theorem Accessor.exists_derivationIn_of_ofName {catalog : Catalog} {name : String}
    {declaredId : Option String} {accessor : Accessor}
    (made : ofName catalog name declaredId = .ok accessor)
    {derivation : String × Expression Accessor} (inside : derivation ∈ accessor.derivations) :
    ∃ form ∈ catalog, ∃ part, derivationIn name form = .ok part ∧ derivation ∈ part := by
  obtain ⟨parts, derived, same⟩ := bind_eq_ok.mp made
  cases same
  obtain ⟨part, member, inside⟩ := List.mem_flatten.mp inside
  obtain ⟨form, known, resolved⟩ := exists_of_mem_mapM derived member
  exact ⟨form, known, part, resolved, inside⟩

namespace FormFields

/-- The keys under which a value of a field may be stored: its display name, its id, and the ids of the
fields of the form with the same name. -/
def storageKeys (form : FormFields) (field : Field) : List String :=
  field.name :: field.id :: form.idsNamed field.name

/-- What a field of a form reads as in a row. Which formula is read on the way to which value is a
matter of the form; a formula that needs its own value reads as nothing at all. -/
inductive Reads (form : FormFields) (row : StoredRow) : Field → Except RunError Cell → Prop where
  /-- The first stored value counts, under the type of the field. -/
  | stored {field : Field} {key : String} {value : Json} {cell : Cell}
      (found : row.firstStored? (form.storageKeys field) = some (key, value))
      (scalar : Cell.ofJson? value = some cell) :
      Reads form row field (.ok (cell.typed field.valueType))
  /-- A list or an object in its place is an error, whatever is stored behind it. -/
  | nested {field : Field} {key : String} {value : Json}
      (found : row.firstStored? (form.storageKeys field) = some (key, value))
      (nested : Cell.ofJson? value = none) :
      Reads form row field (.error (row.notScalar key))
  | missing {field : Field} (nothing : row.firstStored? (form.storageKeys field) = none)
      (plain : field.formula? = none) :
      Reads form row field (.ok .missing)
  /-- Without a stored value the formula counts. Each name in it is a display name or an id of the
  form, and stands for the number that its field reads as in the row, or for zero. -/
  | computed {field : Field} {source : String} {tree : Expression String}
      {target : String → Field} {cells : String → Except RunError Cell}
      (nothing : row.firstStored? (form.storageKeys field) = none)
      (formula : field.formula? = some source)
      (parsed : Expression.parse source = .ok tree)
      (named : ∀ name ∈ tree.leaves, form.target? name = some (target name))
      (read : ∀ name ∈ tree.leaves, Reads form row (target name) (cells name)) :
      Reads form row field
        ((tree.interpret fun name => (cells name).map Cell.number?).map Cell.ofNumber?)

/-- A field reads as one thing only. -/
theorem Reads.unique {form : FormFields} {row : StoredRow} {field : Field}
    {first second : Except RunError Cell} (one : form.Reads row field first)
    (two : form.Reads row field second) : first = second := by
  induction one generalizing second with
  | stored found scalar =>
    cases two with
    | stored again scalarAgain =>
      cases found.symm.trans again
      cases scalar.symm.trans scalarAgain
      rfl
    | nested again impossible =>
      cases found.symm.trans again
      cases scalar.symm.trans impossible
    | missing nothing _ => cases found.symm.trans nothing
    | computed nothing _ _ _ _ => cases found.symm.trans nothing
  | nested found nested =>
    cases two with
    | stored again impossible =>
      cases found.symm.trans again
      cases nested.symm.trans impossible
    | nested again _ =>
      cases found.symm.trans again
      rfl
    | missing nothing _ => cases found.symm.trans nothing
    | computed nothing _ _ _ _ => cases found.symm.trans nothing
  | missing nothing plain =>
    cases two with
    | stored found _ => cases nothing.symm.trans found
    | nested found _ => cases nothing.symm.trans found
    | missing _ _ => rfl
    | computed _ formula _ _ _ => cases plain.symm.trans formula
  | computed nothing formula parsed named read ih =>
    cases two with
    | stored found _ => cases nothing.symm.trans found
    | nested found _ => cases nothing.symm.trans found
    | missing _ plain => cases formula.symm.trans plain
    | computed _ formulaAgain parsedAgain namedAgain readAgain =>
      cases formula.symm.trans formulaAgain
      cases parsed.symm.trans parsedAgain
      rw [Expression.interpret_congr]
      intro name inside
      have field := Option.some.inj ((named name inside).symm.trans (namedAgain name inside))
      rw [ih name inside (field ▸ readAgain name inside)]

/-- The accessor of a field with the formula that it has been given. -/
def accessor (catalog : Catalog) (form : FormFields) (field : Field)
    (derived : Option (Expression Accessor)) : Accessor where
  keys := catalog.keysInForm form.formId field.id field.name
  valueType := field.valueType
  derivations := derived.toList.map (form.formId, ·)

/-- What takes the place of a name in a formula. -/
def reference (catalog : Catalog) (form : FormFields) (visiting : List String) (name : String) :
    Except PlanError (Expression Accessor) :=
  match form.target? name with
  | none => .error (.unknownReference name)
  | some target => do
    let derived ← form.derivation catalog visiting target
    .ok (.ref (form.accessor catalog target derived))

/-- Induction along the names in formulas. A field is only left for one of the form, and then its id is on
the way and was not before, so that a field of the form is left out of account with every step. -/
theorem visiting_induction (form : FormFields) {motive : List String → Field → Prop}
    (step : ∀ visiting field, (field.id ∉ visiting → ∀ target ∈ form.fields,
      motive (field.id :: visiting) target) → motive visiting field)
    (visiting : List String) (field : Field) : motive visiting field := by
  induction size : form.unvisited visiting field using Nat.strongRecOn
    generalizing visiting field with
  | ind size ih =>
    refine step visiting field fun apart target inside => ?_
    exact ih _ (size ▸ unvisited_lt apart inside) (field.id :: visiting) target rfl

variable {catalog : Catalog} {form : FormFields} {visiting : List String} {field : Field}

/-- How a formula is resolved, with the names in it left to `reference`. -/
theorem derivation_eq : form.derivation catalog visiting field =
    match field.formula? with
    | none => .ok none
    | some source =>
      if field.id ∈ visiting then
        .error (.invalidExpression source s!"circular reference through `{field.name}`")
      else parseFormula source >>= fun tree =>
        some <$> tree.substitute (form.reference catalog (field.id :: visiting)) := by
  rw [derivation]
  cases field.formula? with
  | none => rfl
  | some source =>
    dsimp only
    split
    · rfl
    · congr 1
      funext tree
      congr 2
      funext name
      unfold reference
      split <;> rename_i found <;> rw [found]
      rfl

/-- What planning gives a field: nothing without a formula, else the parsed formula with every name
resolved while the field is on the way. -/
theorem derivation_cases {derived : Option (Expression Accessor)}
    (made : form.derivation catalog visiting field = .ok derived) :
    (field.formula? = none ∧ derived = none) ∨
      ∃ source tree resolved, field.formula? = some source ∧ field.id ∉ visiting ∧
        Expression.parse source = .ok tree ∧
        tree.substitute (form.reference catalog (field.id :: visiting)) = .ok resolved ∧
        derived = some resolved := by
  rw [derivation_eq] at made
  split at made
  case h_1 plain =>
    cases made
    exact .inl ⟨plain, rfl⟩
  case h_2 source formula =>
    split at made
    case isTrue =>
      cases made
    case isFalse apart =>
      obtain ⟨tree, parsed, made⟩ := bind_eq_ok.mp made
      obtain ⟨resolved, replaced, rfl⟩ := map_eq_ok.mp made
      exact .inr ⟨source, tree, resolved, formula, apart, mapError_eq_ok.mp parsed, replaced, rfl⟩

/-- A field has an accessor when its formula can be resolved with nothing on the way. -/
theorem ofField_eq_ok {own : Accessor} : Accessor.ofField catalog form field = .ok own ↔
    ∃ derived, form.derivation catalog [] field = .ok derived ∧
      form.accessor catalog field derived = own := by
  rw [Accessor.ofField, bind_eq_ok]
  simp only [Except.ok.injEq]
  rfl

/-- A name that was resolved is a field of the form, and stands for an accessor of that field. -/
theorem exists_of_reference {name : String} {part : Expression Accessor}
    (resolved : form.reference catalog visiting name = .ok part) :
    ∃ target derived, form.target? name = some target ∧
      form.derivation catalog visiting target = .ok derived ∧
      part = .ref (form.accessor catalog target derived) := by
  rw [reference] at resolved
  cases found : form.target? name with
  | none =>
    rw [found] at resolved
    cases resolved
  | some target =>
    rw [found] at resolved
    obtain ⟨derived, made, same⟩ := bind_eq_ok.mp resolved
    cases same
    exact ⟨target, derived, rfl, made, rfl⟩

/-- Resolving a formula goes wrong for what stands in formulas, in this one or in one that it leads to. -/
theorem isOfFormula_of_derivation {fault : PlanError}
    (failed : form.derivation catalog visiting field = .error fault) : fault.IsOfFormula := by
  induction visiting, field using visiting_induction form generalizing fault with
  | step visiting field ih =>
    rw [derivation_eq] at failed
    split at failed
    case h_1 => cases failed
    case h_2 source formula =>
      split at failed
      case isTrue =>
        cases failed
        trivial
      case isFalse apart =>
        rcases bind_eq_error.mp failed with unread | ⟨tree, _, unresolved⟩
        · exact isOfFormula_of_parseFormula unread
        · obtain ⟨name, _, refused⟩ := exists_of_mapM_eq_error
            (Expression.substitute_eq_error.mp (map_eq_error.mp unresolved))
          unfold reference at refused
          split at refused
          case h_1 =>
            cases refused
            trivial
          case h_2 target named =>
            rcases bind_eq_error.mp refused with deeper | ⟨_, _, impossible⟩
            · exact ih apart target (mem_of_target? named) deeper
            · cases impossible

theorem mem_of_fieldById? {id : String} (found : form.fieldById? id = some field) :
    field ∈ form.fields :=
  List.mem_of_find?_eq_some found

theorem mem_of_fieldByName? {name : String} (found : form.fieldByName? name = some field) :
    field ∈ form.fields := by
  have meant : form.target? name = some field := by rw [target?, found, Option.some_or]
  exact mem_of_target? meant

/-- What a display name is given in one form: nothing if the form does not have it, else what its field is
given with no other form in sight. -/
theorem derivationIn_cases {name : String} {part : List (String × Expression Accessor)}
    (made : Accessor.derivationIn name form = .ok part) :
    (form.fieldByName? name = none ∧ part = []) ∨
      ∃ field derived, form.fieldByName? name = some field ∧
        form.derivation [form] [] field = .ok derived ∧
        part = (form.accessor [form] field derived).derivations := by
  unfold Accessor.derivationIn at made
  split at made
  · rename_i none
    cases made
    exact .inl ⟨none, rfl⟩
  · rename_i field named
    obtain ⟨derived, resolved, same⟩ := bind_eq_ok.mp made
    cases same
    exact .inr ⟨field, derived, named, resolved, rfl⟩

variable {row : StoredRow}

/-- An accessor looks under the keys of its field. -/
theorem firstStored?_keysInForm (listed : catalog.form? form.formId = some form) :
    row.firstStored? (catalog.keysInForm form.formId field.id field.name) =
      row.firstStored? (form.storageKeys field) := by
  rw [Catalog.keysInForm, listed]
  exact findSome?_eraseDups _ _

/-- With a stored value the formula is not looked at. -/
theorem reads_of_stored (listed : catalog.form? form.formId = some form)
    {derived : Option (Expression Accessor)} {key : String} {value : Json}
    (found : row.firstStored? (form.storageKeys field) = some (key, value)) :
    form.Reads row field (row.read (form.accessor catalog field derived)) := by
  have first : row.firstStored? (form.accessor catalog field derived).keys = some (key, value) :=
    (firstStored?_keysInForm listed).trans found
  rw [StoredRow.read_of_firstStored? first, StoredRow.typedAs]
  cases scalar : Cell.ofJson? value with
  | none => exact .nested found scalar
  | some cell => exact .stored found scalar

/-- Without one the formula that planning gave the field is evaluated, if there is one. -/
theorem read_of_nothing (listed : catalog.form? form.formId = some form)
    (own : row.formId = form.formId) {derived : Option (Expression Accessor)}
    (nothing : row.firstStored? (form.storageKeys field) = none) :
    row.read (form.accessor catalog field derived) =
      match derived with
      | none => .ok .missing
      | some formula => (formula.eval row.reading).map Cell.ofNumber? := by
  have none : row.firstStored? (form.accessor catalog field derived).keys = none :=
    (firstStored?_keysInForm listed).trans nothing
  rw [StoredRow.read_of_firstStored?_eq_none none, StoredRow.derived_eq, accessor]
  cases derived with
  | none => rfl
  | some formula => rw [Option.toList_some, List.map_singleton, Keyed.get?_cons, if_pos own]

/-- What is read in place of a name that has been resolved. -/
def cellOf (row : StoredRow) : Except PlanError (Expression Accessor) → Except RunError Cell
  | .ok (.ref accessor) => row.read accessor
  | _ => .ok .missing

/-- The accessor of a field reads from a row of the form what the field reads as. -/
theorem reads_of_derivation (listed : catalog.form? form.formId = some form)
    (own : row.formId = form.formId) {derived : Option (Expression Accessor)}
    (made : form.derivation catalog visiting field = .ok derived) :
    form.Reads row field (row.read (form.accessor catalog field derived)) := by
  induction visiting, field using visiting_induction form generalizing derived with
  | step visiting field ih =>
    cases found : row.firstStored? (form.storageKeys field) with
    | some entry => exact reads_of_stored listed found
    | none =>
      rw [read_of_nothing listed own found]
      rcases derivation_cases made with ⟨plain, rfl⟩ |
        ⟨source, tree, resolved, formula, apart, parsed, replaced, rfl⟩
      · exact .missing found plain
      -- Every name of the formula was resolved, to a field of the form.
      let part := form.reference catalog (field.id :: visiting)
      have names : ∀ name ∈ tree.leaves, ∃ target derived, form.target? name = some target ∧
          form.derivation catalog (field.id :: visiting) target = .ok derived ∧
          part name = .ok (.ref (form.accessor catalog target derived)) := by
        intro name inside
        obtain ⟨expression, made⟩ := Expression.exists_part_of_substitute replaced name inside
        obtain ⟨target, derived, named, planned, rfl⟩ := exists_of_reference made
        exact ⟨target, derived, named, planned, made⟩
      have same : resolved.eval row.reading =
          tree.interpret fun name => (cellOf row (part name)).map Cell.number? := by
        rw [← Expression.eval_eq_interpret]
        refine Expression.eval_substitute ?_ replaced
        intro name expression made
        obtain ⟨target, derived, _, _, rfl⟩ := exists_of_reference made
        rw [Expression.eval, Expression.eval, show part name = _ from made]
        rfl
      change form.Reads row field ((resolved.eval row.reading).map Cell.ofNumber?)
      rw [same]
      let reached (name : String) : Field := (form.target? name).getD field
      have named : ∀ name ∈ tree.leaves, form.target? name = some (reached name) := by
        intro name inside
        obtain ⟨target, _, named, _⟩ := names name inside
        exact named.trans (congrArg some (congrArg (Option.getD · field) named).symm)
      refine .computed found formula parsed named ?_
      intro name inside
      obtain ⟨target, derived, known, planned, replaces⟩ := names name inside
      rw [replaces, show reached name = target from congrArg (Option.getD · field) known]
      exact ih apart target (mem_of_target? known) planned

/-- Reading a field through its accessor gives what the field reads as and nothing else, however
deep its formula reaches into those of other fields. -/
theorem reads_iff_read {accessor : Accessor} {result : Except RunError Cell}
    (listed : catalog.form? form.formId = some form)
    (made : Accessor.ofField catalog form field = .ok accessor)
    (own : row.formId = form.formId) :
    form.Reads row field result ↔ row.read accessor = result := by
  obtain ⟨derived, planned, same⟩ := bind_eq_ok.mp made
  cases same
  have reads := reads_of_derivation listed own planned
  constructor
  · intro other
    exact reads.unique other
  · rintro rfl
    exact reads

/-- A derived field that has no value. -/
def rateField : Field := .computed "r" "Rate" "Weight / 0"

/-- A derived field over another. -/
def totalField : Field := .computed "t" "Total" "Rate + [w]"

/-- A derived field whose formula is that of another, written out. -/
def mixedField : Field := .computed "m" "Mixed" "Weight / 0 + Weight"

def ratesForm : FormFields where
  formId := "f"
  fields := [.plain "w" "Weight" .number, rateField, totalField, mixedField]

def ratesRow (weight : Json) : StoredRow := ⟨"1", "f", 0, [("w", weight)]⟩

/-- A field without a value counts as zero in another formula, where the same division written out
leaves nothing. A list in the place of a value is an error in both. -/
theorem reads_iff_read_rates :
    ratesForm.Reads (ratesRow (.integer 60)) totalField (.ok (.number 60)) ∧
      ratesForm.Reads (ratesRow (.integer 60)) mixedField (.ok .missing) ∧
      ratesForm.Reads (ratesRow (.array [])) totalField
        (.error (.malformedPath "1" 0 "value under `w` is not a scalar")) := by
  let weight : Accessor := ⟨["Weight", "w"], .number, []⟩
  let rate : Accessor :=
    ⟨["Rate", "r"], .derived, [("f", .binary .div (.ref weight) (.number 0))]⟩
  have total : Accessor.ofField [ratesForm] ratesForm totalField = .ok ⟨["Total", "t"], .derived,
      [("f", .binary .add (.ref rate) (.ref weight))]⟩ := by decide +kernel
  have mixed : Accessor.ofField [ratesForm] ratesForm mixedField = .ok ⟨["Mixed", "m"], .derived,
      [("f", .binary .add (.binary .div (.ref weight) (.number 0)) (.ref weight))]⟩ := by decide +kernel
  refine ⟨(reads_iff_read rfl total rfl).mpr ?_, (reads_iff_read rfl mixed rfl).mpr ?_,
    (reads_iff_read rfl total rfl).mpr ?_⟩ <;> decide +kernel

end FormFields

end FormReport
