import FormReport.Proofs.Derivation

set_option autoImplicit false

/- When the formulas of a form can be resolved. A formula leads from its field to the fields that it
names, and these may have formulas of their own; resolving fails just when some chain of such steps
comes to a formula that makes no sense or comes to one id twice. -/
namespace FormReport

/-- A substitution succeeds when every leaf can be replaced. -/
theorem Expression.exists_substitute_iff {ε α β : Type} {replace : α → Except ε (Expression β)}
    {tree : Expression α} :
    (∃ formula, tree.substitute replace = .ok formula) ↔
      ∀ leaf ∈ tree.leaves, ∃ part, replace leaf = .ok part := by
  constructor
  · rintro ⟨formula, success⟩
    exact exists_part_of_substitute success
  intro parts
  induction tree with
  | ref leaf => exact parts leaf (List.mem_singleton_self leaf)
  | number literal => exact ⟨.number literal, rfl⟩
  | neg inner ih =>
    obtain ⟨lowered, replaced⟩ := ih parts
    exact ⟨.neg lowered, bind_eq_ok.mpr ⟨lowered, replaced, rfl⟩⟩
  | binary operator left right left_ih right_ih =>
    obtain ⟨first, replacedFirst⟩ := left_ih fun leaf inside =>
      parts leaf (List.mem_append_left _ inside)
    obtain ⟨second, replacedSecond⟩ := right_ih fun leaf inside =>
      parts leaf (List.mem_append_right _ inside)
    exact ⟨.binary operator first second, bind_eq_ok.mpr ⟨first, replacedFirst,
      bind_eq_ok.mpr ⟨second, replacedSecond, rfl⟩⟩⟩

namespace FormFields

/-- Whether the formula of a field names another field, or the field itself. -/
def Refers (form : FormFields) (field target : Field) : Prop :=
  ∃ source tree, field.formula? = some source ∧ Expression.parse source = .ok tree ∧
    ∃ name ∈ tree.leaves, form.target? name = some target

/-- Whether the formula of a field, if it has one, makes sense: it parses, and every name in it is that
of a field of the form. -/
def IsClear (form : FormFields) (field : Field) : Prop :=
  ∀ source, field.formula? = some source → ∃ tree, Expression.parse source = .ok tree ∧
    ∀ name ∈ tree.leaves, ∃ target, form.target? name = some target

/-- The ids of the fields on a chain that have a formula. -/
def formulaIds (chain : List Field) : List String :=
  (chain.filter (·.formula?.isSome)).map (·.id)

theorem formulaIds_cons_of_formula {field : Field} {source : String}
    (formula : field.formula? = some source) (chain : List Field) :
    formulaIds (field :: chain) = field.id :: formulaIds chain := by
  simp [formulaIds, formula]

theorem formulaIds_singleton_of_plain {field : Field} (plain : field.formula? = none) :
    formulaIds [field] = [] := by
  simp [formulaIds, plain]

variable {catalog : Catalog} {form : FormFields} {visiting : List String} {field : Field}

/-- One step of resolving: a formula that is not on the way already is parsed, and all its names are
resolved in turn. -/
theorem exists_derivation_iff :
    (∃ derived, form.derivation catalog visiting field = .ok derived) ↔
      ∀ source, field.formula? = some source → field.id ∉ visiting ∧
        ∃ tree, Expression.parse source = .ok tree ∧ ∀ name ∈ tree.leaves,
          ∃ target, form.target? name = some target ∧
            ∃ derived, form.derivation catalog (field.id :: visiting) target = .ok derived := by
  constructor
  · rintro ⟨derived, made⟩ source formula
    rcases derivation_cases made with ⟨plain, _⟩ |
      ⟨own, tree, resolved, known, apart, parsed, replaced, _⟩
    · cases plain.symm.trans formula
    · cases known.symm.trans formula
      refine ⟨apart, tree, parsed, ?_⟩
      intro name inside
      obtain ⟨part, made⟩ := Expression.exists_part_of_substitute replaced name inside
      obtain ⟨target, derived, named, planned, _⟩ := exists_of_reference made
      exact ⟨target, named, derived, planned⟩
  · intro resolves
    rw [derivation_eq]
    cases formula : field.formula? with
    | none => exact ⟨none, rfl⟩
    | some source =>
      obtain ⟨apart, tree, parsed, names⟩ := resolves source formula
      have replaces : ∀ name ∈ tree.leaves,
          ∃ part, form.reference catalog (field.id :: visiting) name = .ok part := by
        intro name inside
        obtain ⟨target, named, derived, planned⟩ := names name inside
        refine ⟨.ref (form.accessor catalog target derived), ?_⟩
        rw [reference, named]
        exact bind_eq_ok.mpr ⟨derived, planned, rfl⟩
      obtain ⟨resolved, replaced⟩ := Expression.exists_substitute_iff.mpr replaces
      refine ⟨some resolved, ?_⟩
      dsimp only
      rw [if_neg apart]
      exact bind_eq_ok.mpr ⟨tree, mapError_eq_ok.mpr parsed, map_eq_ok.mpr ⟨resolved, replaced, rfl⟩⟩

/-- A field without a formula leads nowhere. -/
theorem not_refers_of_plain (plain : field.formula? = none) (target : Field) :
    ¬ form.Refers field target := by
  rintro ⟨source, tree, formula, _⟩
  cases plain.symm.trans formula

/-- What makes a chain from a field one that can be followed to its end while the formulas of some ids
are on the way. -/
structure Passes (form : FormFields) (visiting : List String) (chain : List Field) : Prop where
  clear : ∀ reached ∈ chain, form.IsClear reached
  distinct : (formulaIds chain).Nodup
  apart : ∀ id ∈ formulaIds chain, id ∉ visiting

theorem passes_of_plain (plain : field.formula? = none) : form.Passes visiting [field] := by
  refine ⟨?_, ?_, ?_⟩
  · intro reached inside source formula
    rw [List.mem_singleton.mp inside, plain] at formula
    cases formula
  · rw [formulaIds_singleton_of_plain plain]
    exact List.nodup_nil
  · rw [formulaIds_singleton_of_plain plain]
    exact nofun

/-- A chain from a field with a formula can be followed just when the formula makes sense, is not on the
way, and the rest of the chain can be followed with it on the way. -/
theorem passes_cons_iff {source : String} (formula : field.formula? = some source)
    {chain : List Field} :
    form.Passes visiting (field :: chain) ↔
      form.IsClear field ∧ field.id ∉ visiting ∧ form.Passes (field.id :: visiting) chain := by
  have ids := formulaIds_cons_of_formula formula chain
  constructor
  · rintro ⟨clear, distinct, apart⟩
    rw [ids] at distinct apart
    obtain ⟨fresh, distinct⟩ := List.nodup_cons.mp distinct
    obtain ⟨own, apart⟩ := List.forall_mem_cons.mp apart
    obtain ⟨first, clear⟩ := List.forall_mem_cons.mp clear
    refine ⟨first, own, clear, distinct, ?_⟩
    intro id inside visited
    rcases List.mem_cons.mp visited with rfl | visited
    · exact fresh inside
    · exact apart id inside visited
  · rintro ⟨first, own, clear, distinct, apart⟩
    refine ⟨List.forall_mem_cons.mpr ⟨first, clear⟩, ?_, ?_⟩
    · rw [ids, List.nodup_cons]
      exact ⟨fun again => apart _ again List.mem_cons_self, distinct⟩
    · rw [ids, List.forall_mem_cons]
      exact ⟨own, fun id inside visited => apart id inside (List.mem_cons_of_mem _ visited)⟩

/-- A field can be resolved just when every chain from it can be followed to its end. -/
theorem exists_derivation_iff_passes :
    (∃ derived, form.derivation catalog visiting field = .ok derived) ↔
      ∀ chain, (field :: chain).IsChain form.Refers → form.Passes visiting (field :: chain) := by
  induction visiting, field using visiting_induction form with
  | step visiting field ih =>
    rw [exists_derivation_iff]
    cases formula : field.formula? with
    | none =>
      refine iff_of_true nofun ?_
      intro chain linked
      cases chain with
      | nil => exact passes_of_plain formula
      | cons target rest =>
        exact absurd (List.isChain_cons_cons.mp linked).1 (not_refers_of_plain formula target)
    | some source =>
      constructor
      · intro resolves chain linked
        obtain ⟨apart, tree, parsed, names⟩ := resolves source rfl
        have clear : form.IsClear field := by
          intro other known
          cases formula.symm.trans known
          refine ⟨tree, parsed, fun name inside => ?_⟩
          obtain ⟨target, named, _⟩ := names name inside
          exact ⟨target, named⟩
        refine (passes_cons_iff formula).mpr ⟨clear, apart, ?_⟩
        cases chain with
        | nil => exact ⟨nofun, List.nodup_nil, nofun⟩
        | cons target rest =>
          obtain ⟨⟨other, reached, known, parsedAgain, name, inside, named⟩, linked⟩ :=
            List.isChain_cons_cons.mp linked
          cases formula.symm.trans known
          cases parsed.symm.trans parsedAgain
          obtain ⟨_, again, resolved⟩ := names name inside
          cases named.symm.trans again
          exact (ih apart target (mem_of_target? named)).mp resolved rest linked
      · intro passes other known
        cases known
        obtain ⟨clear, apart, _⟩ := (passes_cons_iff formula).mp (passes [] (.singleton field))
        obtain ⟨tree, parsed, names⟩ := clear source formula
        refine ⟨apart, tree, parsed, ?_⟩
        intro name inside
        obtain ⟨target, named⟩ := names name inside
        refine ⟨target, named, (ih apart target (mem_of_target? named)).mpr ?_⟩
        intro rest linked
        have refers : form.Refers field target := ⟨source, tree, formula, parsed, name, inside, named⟩
        exact ((passes_cons_iff formula).mp
          (passes (target :: rest) (List.isChain_cons_cons.mpr ⟨refers, linked⟩))).2.2

/-- A chain that comes to no id twice comes to no field twice. -/
theorem nodup_of_isChain {chain : List Field} (linked : (field :: chain).IsChain form.Refers)
    (distinct : (formulaIds (field :: chain)).Nodup) : (field :: chain).Nodup := by
  induction chain generalizing field with
  | nil => exact List.nodup_singleton field
  | cons target rest ih =>
    obtain ⟨⟨source, _, formula, _⟩, further⟩ := List.isChain_cons_cons.mp linked
    rw [formulaIds_cons_of_formula formula] at distinct
    obtain ⟨fresh, distinct⟩ := List.nodup_cons.mp distinct
    refine List.nodup_cons.mpr ⟨?_, ih further distinct⟩
    intro again
    apply fresh
    exact List.mem_map_of_mem (List.mem_filter.mpr ⟨again, by simp [formula]⟩)

theorem mem_fields_of_isChain {chain : List Field} (linked : (field :: chain).IsChain form.Refers) :
    ∀ reached ∈ chain, reached ∈ form.fields := by
  induction chain generalizing field with
  | nil => exact nofun
  | cons target rest ih =>
    obtain ⟨⟨_, _, _, _, _, _, named⟩, further⟩ := List.isChain_cons_cons.mp linked
    intro reached inside
    rcases List.mem_cons.mp inside with rfl | later
    · exact mem_of_target? named
    · exact ih further reached later

/-- The way from a field never gets longer than the form has fields. -/
theorem length_le_of_isChain {chain : List Field} (linked : (field :: chain).IsChain form.Refers)
    (distinct : (formulaIds (field :: chain)).Nodup) : chain.length ≤ form.fields.length := by
  have once := (List.nodup_cons.mp (nodup_of_isChain linked distinct)).2
  exact once.length_le_of_subset (mem_fields_of_isChain linked)

/-- A field has an accessor just when, along all chains of names that start at it, every formula parses,
every name is that of a field of the form, and no two fields with a formula have the same id. Fields
may be shared by many chains. The chains that are followed end: without a repeated id no chain
leads to more fields than the form has. -/
theorem exists_ofField_iff_chains (catalog : Catalog) (form : FormFields) (field : Field) :
    ((∃ accessor, Accessor.ofField catalog form field = .ok accessor) ↔
      ∀ chain, (field :: chain).IsChain form.Refers →
        (∀ reached ∈ field :: chain, form.IsClear reached) ∧
          (formulaIds (field :: chain)).Nodup) ∧
    ∀ chain, (field :: chain).IsChain form.Refers → (formulaIds (field :: chain)).Nodup →
      chain.length ≤ form.fields.length := by
  refine ⟨?_, fun chain => length_le_of_isChain⟩
  have resolved : (∃ accessor, Accessor.ofField catalog form field = .ok accessor) ↔
      ∃ derived, form.derivation catalog [] field = .ok derived := by
    constructor
    · rintro ⟨accessor, made⟩
      obtain ⟨derived, planned, _⟩ := ofField_eq_ok.mp made
      exact ⟨derived, planned⟩
    · rintro ⟨derived, planned⟩
      exact ⟨_, ofField_eq_ok.mpr ⟨derived, planned, rfl⟩⟩
  rw [resolved, exists_derivation_iff_passes]
  refine forall₂_congr fun chain linked => ?_
  constructor
  · intro passes
    exact ⟨passes.clear, passes.distinct⟩
  · rintro ⟨clear, distinct⟩
    exact ⟨clear, distinct, nofun⟩

end FormFields

end FormReport
