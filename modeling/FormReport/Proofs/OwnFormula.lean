import FormReport.Proofs.Derivation

set_option autoImplicit false

/- A formula is a matter of its form alone. A display name that is looked up in all forms at once has for
each of them the formula that the field of this name has by itself; what other forms call or number their
fields does not come into it. -/
namespace FormReport

namespace FormFields

variable {catalog other : Catalog} {form : FormFields}

/-- The accessor of a field depends on its own form only. -/
theorem accessor_congr (same : catalog.form? form.formId = other.form? form.formId) (field : Field)
    (derived : Option (Expression Accessor)) :
    form.accessor catalog field derived = form.accessor other field derived := by
  unfold accessor Catalog.keysInForm
  rw [same]

/-- So does the formula with its names resolved, to any depth. -/
theorem derivation_congr (same : catalog.form? form.formId = other.form? form.formId)
    (visiting : List String) (field : Field) :
    form.derivation catalog visiting field = form.derivation other visiting field := by
  induction visiting, field using visiting_induction form with
  | step visiting field ih =>
    rw [derivation_eq, derivation_eq]
    split
    · rfl
    · split
      · rfl
      · rename_i apart
        have names : form.reference catalog (field.id :: visiting) =
            form.reference other (field.id :: visiting) := by
          funext name
          unfold reference
          cases named : form.target? name with
          | none => rfl
          | some target =>
            simp only [ih apart target (mem_of_target? named), accessor_congr same]
        rw [names]

end FormFields

/-- Under distinct ids every form is found by its id. -/
theorem Catalog.form?_of_mem {catalog : Catalog} (distinct : (catalog.map (·.formId)).Nodup)
    {form : FormFields} (inside : form ∈ catalog) : catalog.form? form.formId = some form := by
  induction catalog with
  | nil => cases inside
  | cons first rest ih =>
    rw [List.map_cons, List.nodup_cons] at distinct
    rw [form?, List.find?_cons]
    rcases List.mem_cons.mp inside with rfl | later
    · simp
    · have apart : first.formId ≠ form.formId := by
        intro same
        apply distinct.1
        rw [same]
        exact List.mem_map_of_mem later
      rw [decide_eq_false apart]
      exact ih distinct.2 later

section Parts

variable {ι κ α : Type} [DecidableEq κ] {key : ι → κ}

theorem filter_flatten_of_not_mem {origins : List ι} {parts : List (List (κ × α))}
    (own : List.Forall₂ (fun origin part => ∀ entry ∈ part, entry.1 = key origin) origins parts)
    {name : κ} (absent : name ∉ origins.map key) :
    parts.flatten.filter (fun entry => decide (entry.1 = name)) = [] := by
  rw [List.filter_eq_nil_iff]
  intro entry inside same
  obtain ⟨part, member, inside⟩ := List.mem_flatten.mp inside
  obtain ⟨origin, paired, keyed⟩ := exists_of_forall₂ own.flip member
  apply absent
  rw [← of_decide_eq_true same, keyed entry inside]
  exact List.mem_map_of_mem (List.of_mem_zip paired).2

/-- Of parts under distinct keys, joined into one list, each can be found again by its key. -/
theorem filter_flatten_of_mem {origins : List ι} {parts : List (List (κ × α))}
    (own : List.Forall₂ (fun origin part => ∀ entry ∈ part, entry.1 = key origin) origins parts)
    (distinct : (origins.map key).Nodup) {origin : ι} {part : List (κ × α)}
    (paired : (origin, part) ∈ origins.zip parts) :
    parts.flatten.filter (fun entry => decide (entry.1 = key origin)) = part := by
  induction own with
  | nil => cases paired
  | @cons head first rest others keyed further ih =>
    rw [List.map_cons, List.nodup_cons] at distinct
    rw [List.flatten_cons, List.filter_append]
    rw [List.zip_cons_cons] at paired
    rcases List.mem_cons.mp paired with here | later
    · cases here
      rw [filter_flatten_of_not_mem further distinct.1, List.append_nil, List.filter_eq_self]
      intro entry inside
      exact decide_eq_true (keyed entry inside)
    · have none : first.filter (fun entry => decide (entry.1 = key origin)) = [] := by
        rw [List.filter_eq_nil_iff]
        intro entry inside same
        apply distinct.1
        rw [← keyed entry inside, of_decide_eq_true same]
        exact List.mem_map_of_mem (List.of_mem_zip later).1
      rw [none, List.nil_append, ih distinct.2 later]

end Parts

/-- What is found under a key is found among the entries of that key. -/
theorem Keyed.get?_filter {α : Type} (entries : Keyed α) (key : String) :
    Keyed.get? (entries.filter fun entry => decide (entry.1 = key)) key = entries.get? key := by
  induction entries with
  | nil => rfl
  | cons entry rest ih =>
    obtain ⟨name, value⟩ := entry
    by_cases same : name = key
    · simp [Keyed.get?_cons, same]
    · rw [List.filter_cons_of_neg (by simpa using same), ih, Keyed.get?_cons,
        if_neg fun equal => same equal.symm]

namespace Accessor

theorem formId_of_derivationIn {name : String} {form : FormFields}
    {part : List (String × Expression Accessor)} (made : derivationIn name form = .ok part) :
    ∀ entry ∈ part, entry.1 = form.formId := by
  rcases FormFields.derivationIn_cases made with ⟨_, rfl⟩ | ⟨field, derived, _, _, rfl⟩
  · exact nofun
  · intro entry inside
    obtain ⟨formula, _, rfl⟩ := List.mem_map.mp inside
    rfl

variable {catalog : Catalog} {form : FormFields} {field : Field} {name : String}

/-- What a display name has for one form is what the accessor of the field has. -/
theorem exists_ofField_of_derivationIn (listed : catalog.form? form.formId = some form)
    (named : form.fieldByName? name = some field) {part : List (String × Expression Accessor)}
    (made : derivationIn name form = .ok part) :
    ∃ own, ofField catalog form field = .ok own ∧ own.derivations = part := by
  rcases FormFields.derivationIn_cases made with ⟨none, _⟩ | ⟨found, derived, again, resolved, rfl⟩
  · cases named.symm.trans none
  cases named.symm.trans again
  have alone : Catalog.form? [form] form.formId = some form := by simp [Catalog.form?]
  rw [FormFields.derivation_congr (alone.trans listed.symm)] at resolved
  exact ⟨_, FormFields.ofField_eq_ok.mpr ⟨derived, resolved, rfl⟩, rfl⟩

/-- A display name that can be read in all forms can be read in each by itself, with one formula on both
ways: the formulas that the name has for a form are those of the field with that name, so that rows
of the form give the same value where none is stored. -/
theorem exists_ofField_of_ofName {declaredId : Option String} {merged : Accessor}
    (distinct : (catalog.map (·.formId)).Nodup) (inside : form ∈ catalog)
    (named : form.fieldByName? name = some field)
    (made : ofName catalog name declaredId = .ok merged) :
    ∃ own, ofField catalog form field = .ok own ∧
      merged.derivations.filter (fun derivation => decide (derivation.1 = form.formId)) =
        own.derivations ∧
      ∀ row : StoredRow, row.formId = form.formId →
        row.derived merged.derivations = row.derived own.derivations := by
  obtain ⟨parts, derived, same⟩ := bind_eq_ok.mp made
  cases same
  have each := mapM_eq_ok.mp derived
  obtain ⟨part, paired, resolved⟩ := exists_of_forall₂ each inside
  obtain ⟨own, alone, formulas⟩ :=
    exists_ofField_of_derivationIn (Catalog.form?_of_mem distinct inside) named resolved
  have keyed := each.imp fun _ _ => formId_of_derivationIn
  have found := filter_flatten_of_mem keyed distinct paired
  refine ⟨own, alone, found.trans formulas.symm, ?_⟩
  intro row belongs
  have first : Keyed.get? own.derivations row.formId = Keyed.get? parts.flatten row.formId := by
    rw [formulas, ← found, belongs]
    exact Keyed.get?_filter parts.flatten form.formId
  rw [StoredRow.derived_eq, StoredRow.derived_eq, first]

/-- Fish that are weighed when they come in. -/
def weighedIn : FormFields where
  formId := "in"
  fields := [.plain "w" "Weight" .number, .computed "d" "Double" "Weight + Weight",
    .computed "q" "Quadruple" "Double + [d]"]

/-- Fish that are weighed when they go out: fields with the same ids and names, and one of another id, and
other formulas. -/
def weighedOut : FormFields where
  formId := "out"
  fields := [(Field.plain "x" "Weight" .text).archive, .plain "w" "Weight" .number,
    .computed "d" "Double" "Weight / 0", .computed "q" "Quadruple" "Double - Weight"]

def weightIn : Accessor := ⟨["Weight", "w"], .number, []⟩

def doubleIn : Accessor :=
  ⟨["Double", "d"], .derived, [("in", .binary .add (.ref weightIn) (.ref weightIn))]⟩

def weightOut : Accessor := ⟨["Weight", "w", "x"], .number, []⟩

def doubleOut : Accessor :=
  ⟨["Double", "d"], .derived, [("out", .binary .div (.ref weightOut) (.number 0))]⟩

/-- What the name reads in both forms. -/
def quadruple : Accessor :=
  ⟨["Quadruple", "q"], .derived,
    [("out", .binary .sub (.ref doubleOut) (.ref weightOut)),
      ("in", .binary .add (.ref doubleIn) (.ref doubleIn))]⟩

theorem exists_ofField_of_ofName_quadruple :
    ofName [weighedOut, weighedIn] "Quadruple" none = .ok quadruple ∧
      ∃ own, ofField [weighedOut, weighedIn] weighedIn (.computed "q" "Quadruple" "Double + [d]") =
          .ok own ∧
        own.derivations = [("in", .binary .add (.ref doubleIn) (.ref doubleIn))] := by
  have made : ofName [weighedOut, weighedIn] "Quadruple" none = .ok quadruple := by decide +kernel
  have inside : weighedIn ∈ [weighedOut, weighedIn] := List.mem_cons_of_mem _ List.mem_cons_self
  have named : weighedIn.fieldByName? "Quadruple" =
      some (.computed "q" "Quadruple" "Double + [d]") := by decide +kernel
  obtain ⟨own, alone, formulas, _⟩ := exists_ofField_of_ofName (by decide) inside named made
  exact ⟨made, own, alone, formulas.symm⟩

end Accessor

end FormReport
