import FormReport.Catalog.KeyMemo
import FormReport.Proofs.DisplayKeys
import Mathlib.Data.List.Induction

set_option autoImplicit false

/- Lists of candidate keys. They are collected key by key, sometimes with a repeat that is dropped
afterwards, and those of a display name are remembered. In all cases they are the declared keys and
behind them the further ones, each where it is first seen. -/
namespace FormReport

/-- A list of keys that begins with declared ones and goes on with what is further in a list, in the
order in which it is first seen there. -/
structure Enumerates (keys declared further : List String) : Prop where
  begins : ∃ rest, keys = declared ++ rest ∧
    rest.Pairwise fun first second => further.idxOf first < further.idxOf second
  nodup : keys.Nodup
  mem_iff : ∀ key, key ∈ keys ↔ key ∈ declared ∨ key ∈ further

theorem eraseDups_of_nodup {keys : List String} (distinct : keys.Nodup) : keys.eraseDups = keys := by
  induction keys using List.reverseRecOn with
  | nil => rfl
  | append_singleton keys key ih =>
    obtain ⟨distinct, _, apart⟩ := List.nodup_append.mp distinct
    have fresh : key ∉ keys := fun inside => apart key inside key (List.mem_singleton_self _) rfl
    rw [eraseDups_concat, if_neg fresh, ih distinct]

/-- Leaving keys out does not change the order of the others. -/
theorem pairwise_idxOf_eraseDups_filter (keep : String → Bool) (keys : List String) :
    (keys.filter keep).eraseDups.Pairwise
      fun first second => keys.idxOf first < keys.idxOf second := by
  induction keys using List.reverseRecOn with
  | nil => exact .nil
  | append_singleton keys key ih =>
    have earlier {other : String} (inside : other ∈ (keys.filter keep).eraseDups) : other ∈ keys :=
      List.mem_of_mem_filter (List.mem_eraseDups.mp inside)
    have settled : (keys.filter keep).eraseDups.Pairwise
        fun first second => (keys ++ [key]).idxOf first < (keys ++ [key]).idxOf second := by
      refine ih.imp_of_mem fun first second before => ?_
      rwa [List.idxOf_append_of_mem (earlier first), List.idxOf_append_of_mem (earlier second)]
    rw [List.filter_append, List.filter_cons, List.filter_nil]
    split
    · rename_i kept
      rw [eraseDups_concat]
      split
      · exact settled
      · rename_i fresh
        have unseen : key ∉ keys := fun inside => fresh (List.mem_filter.mpr ⟨inside, kept⟩)
        refine List.pairwise_append.mpr ⟨settled, List.pairwise_singleton _ _, ?_⟩
        intro first inside last only
        rw [List.mem_singleton.mp only, List.idxOf_append_of_mem (earlier inside),
          List.idxOf_append_of_notMem unseen]
        exact Nat.lt_add_right _ (List.idxOf_lt_length_of_mem (earlier inside))
    · rwa [List.append_nil]

/-- Behind distinct keys stand those that are not among them. -/
theorem eraseDups_append_of_nodup {declared : List String} (distinct : declared.Nodup)
    (further : List String) : (declared ++ further).eraseDups =
      declared ++ (further.filter (· ∉ declared)).eraseDups := by
  rw [List.eraseDups_append, eraseDups_of_nodup distinct, List.removeAll]
  simp only [List.elem_eq_mem, decide_not]

theorem enumerates_eraseDups {declared : List String} (distinct : declared.Nodup)
    (further : List String) : Enumerates (declared ++ further).eraseDups declared further where
  begins := ⟨_, eraseDups_append_of_nodup distinct further,
    pairwise_idxOf_eraseDups_filter _ further⟩
  nodup := nodup_eraseDups _
  mem_iff _ := by rw [List.mem_eraseDups, List.mem_append]

/-- Keys that are put behind others one by one. -/
theorem foldl_appendKey (keys further : List String) :
    further.foldl appendKey keys = keys ++ (further.filter (· ∉ keys)).eraseDups := by
  induction further using List.reverseRecOn with
  | nil => exact (List.append_nil keys).symm
  | append_singleton further key ih =>
    rw [List.foldl_append, ih, List.filter_append, List.filter_cons, List.filter_nil,
      List.foldl_cons, List.foldl_nil, appendKey]
    by_cases declared : key ∈ keys
    · simp [declared]
    · simp only [declared, not_false_eq_true, decide_true, ↓reduceIte, eraseDups_concat,
        List.mem_append, false_or, List.mem_eraseDups, List.mem_filter, and_true, List.append_assoc]
      split <;> rfl

theorem dropRepeatsAfter_of_nodup {last : String} {keys : List String}
    (distinct : (last :: keys).Nodup) : dropRepeatsAfter last keys = keys := by
  induction keys generalizing last with
  | nil => rfl
  | cons key rest ih =>
    obtain ⟨apart, distinct⟩ := List.nodup_cons.mp distinct
    have fresh : key ≠ last := fun same => apart (same ▸ List.mem_cons_self)
    rw [dropRepeatsAfter, if_neg fresh, ih distinct]

theorem FormFields.appendIds_eq (form : FormFields) (name : String) (keys : List String) :
    form.appendIds name keys = (form.idsNamed name).foldl appendKey keys := by
  rw [appendIds, idsNamed, List.foldl_map, List.foldl_filter]
  simp only [decide_eq_true_eq]

namespace Catalog

theorem collectKeys_eq (catalog : Catalog) (name : String) :
    catalog.collectKeys name = catalog.candidateKeys name := by
  have collected : catalog.collectKeys name =
      (catalog.flatMap (·.idsNamed name)).foldl appendKey [name] := by
    rw [collectKeys, List.foldl_flatMap]
    simp only [FormFields.appendIds_eq]
  rw [collected, foldl_appendKey, ← eraseDups_append_of_nodup (List.nodup_singleton name)]
  rfl

/-- The keys that are declared with a field of a form. -/
def declaredKeys (fieldId name : String) : List String :=
  if fieldId = name then [name] else [name, fieldId]

theorem nodup_declaredKeys (fieldId name : String) : (declaredKeys fieldId name).Nodup := by
  unfold declaredKeys
  split
  · exact List.nodup_singleton name
  · rename_i apart
    simpa using Ne.symm apart

/-- The ids that a form of the catalog has for a display name. -/
def idsInForm (catalog : Catalog) (formId name : String) : List String :=
  ((catalog.form? formId).map (·.idsNamed name)).getD []

theorem keysInForm_eq (catalog : Catalog) (formId fieldId name : String) :
    catalog.keysInForm formId fieldId name =
      (declaredKeys fieldId name ++ catalog.idsInForm formId name).eraseDups := by
  unfold keysInForm declaredKeys
  split
  · rename_i same
    rw [same, List.eraseDups_cons, List.filter_cons]
    simp [List.eraseDups_cons, idsInForm]
  · rfl

theorem collectKeysInForm_eq (catalog : Catalog) (formId fieldId name : String) :
    catalog.collectKeysInForm formId fieldId name = catalog.keysInForm formId fieldId name := by
  have collected : catalog.collectKeysInForm formId fieldId name = dropRepeats
      ([name, fieldId] ++
        ((catalog.idsInForm formId name).filter (· ∉ [name, fieldId])).eraseDups) := by
    rw [← foldl_appendKey, collectKeysInForm, idsInForm]
    cases catalog.form? formId with
    | none => rfl
    | some form => simp only [FormFields.appendIds_eq, Option.map_some, Option.getD_some]
  have whole := eraseDups_append_of_nodup (nodup_declaredKeys fieldId name)
    (catalog.idsInForm formId name)
  have distinct := nodup_eraseDups (declaredKeys fieldId name ++ catalog.idsInForm formId name)
  rw [collected, keysInForm_eq, whole]
  rw [whole] at distinct
  unfold declaredKeys at distinct ⊢
  split
  · rename_i same
    -- The id repeats the name, which stands before it.
    rw [if_pos same] at distinct
    simp only [same, List.mem_cons, List.not_mem_nil, or_false, or_self, List.cons_append,
      List.nil_append, dropRepeats, dropRepeatsAfter, ↓reduceIte] at distinct ⊢
    rw [dropRepeatsAfter_of_nodup distinct]
  · rename_i apart
    rw [if_neg apart] at distinct
    exact congrArg (name :: ·) (dropRepeatsAfter_of_nodup distinct)

end Catalog

/-- The keys that a request asks for. -/
def KeyRequest.keys (catalog : Catalog) : KeyRequest → List String
  | .ofName name => catalog.candidateKeys name
  | .inForm formId fieldId name => catalog.keysInForm formId fieldId name

namespace KeyMemo

/-- Whether what is remembered is what would be collected. -/
structure Faithful (memo : KeyMemo) (catalog : Catalog) : Prop where
  own : memo.catalog = catalog
  known : ∀ name keys, memo.known.get? name = some keys → keys = catalog.candidateKeys name

theorem faithful_new (catalog : Catalog) : (new catalog).Faithful catalog := ⟨rfl, nofun⟩

variable {memo : KeyMemo} {catalog : Catalog}

theorem Faithful.answer (faithful : memo.Faithful catalog) (request : KeyRequest) :
    ∃ after : KeyMemo, after.Faithful catalog ∧
      (KeyMemo.answer request).run memo = (request.keys catalog, after) := by
  cases request with
  | inForm formId fieldId name =>
    refine ⟨memo, faithful, ?_⟩
    rw [KeyRequest.keys, ← Catalog.collectKeysInForm_eq, ← faithful.own]
    rfl
  | ofName name =>
    cases found : memo.known.get? name with
    | some keys =>
      refine ⟨memo, faithful, ?_⟩
      rw [KeyRequest.keys, ← faithful.known name keys found]
      simp only [KeyMemo.answer, StateT.run_bind, StateT.run_get, pure_bind, found]
      rfl
    | none =>
      refine ⟨{ memo with known := memo.known.set name (memo.catalog.collectKeys name) }, ?_, ?_⟩
      · refine ⟨faithful.own, fun other keys => ?_⟩
        rw [Keyed.get?_set]
        split
        · rename_i same
          intro found
          rw [same, ← Option.some.inj found, Catalog.collectKeys_eq, faithful.own]
        · exact faithful.known other keys
      · rw [KeyRequest.keys, ← Catalog.collectKeys_eq, ← faithful.own]
        simp only [KeyMemo.answer, StateT.run_bind, StateT.run_get, pure_bind, found]
        rfl

theorem Faithful.answers (faithful : memo.Faithful catalog) (requests : List KeyRequest) :
    ((requests.mapM KeyMemo.answer).run memo).1 = requests.map (·.keys catalog) := by
  induction requests generalizing memo with
  | nil => rfl
  | cons request rest ih =>
    obtain ⟨after, still, answered⟩ := faithful.answer request
    have rest := ih still
    rw [List.mapM_cons, List.map_cons, ← rest]
    simp only [StateT.run_bind, answered]
    rfl

end KeyMemo

namespace GroupingKey

variable {catalog : Catalog}

/-- The ids of the fields that are shown in a column. -/
def idsShown (catalog : Catalog) (fields : List SelectedField) (column : String) : List String :=
  (fields.filter (·.column catalog = column)).map (·.fieldId)

theorem idsShown_concat (fields : List SelectedField) (field : SelectedField) (column : String) :
    idsShown catalog (fields ++ [field]) column =
      idsShown catalog fields column ++ if field.column catalog = column then [field.fieldId] else [] := by
  unfold idsShown
  rw [List.filter_append, List.map_append, List.filter_cons, List.filter_nil]
  simp only [decide_eq_true_eq]
  split <;> rfl

/-- In columns of different names the keys of just one grow. -/
theorem addKey_eq_map {column key : String} {grouping : List GroupingKey}
    (distinct : (grouping.map (·.column)).Nodup) :
    addKey column key grouping = grouping.map fun grouped =>
      if grouped.column = column then { grouped with accessor := grouped.accessor.withKey key }
      else grouped := by
  induction grouping with
  | nil => rfl
  | cons grouped rest ih =>
    obtain ⟨apart, distinct⟩ := List.nodup_cons.mp distinct
    rw [addKey, List.map_cons]
    split
    · rename_i same
      congr 1
      conv_lhs => rw [← List.map_id rest]
      refine List.map_congr_left fun other inside => (if_neg ?_).symm
      exact fun also => apart (List.mem_map.mpr ⟨other, inside, also.trans same.symm⟩)
    · rw [ih distinct]

theorem withKey_eq {accessor : Accessor} {keys : List String} (listed : accessor.keys = keys.eraseDups)
    (key : String) : (accessor.withKey key).keys = (keys ++ [key]).eraseDups := by
  have known : key ∈ accessor.keys ↔ key ∈ keys := by rw [listed, List.mem_eraseDups]
  rw [eraseDups_concat, Accessor.withKey, ← listed]
  simp only [known]
  split <;> rfl

/-- The keys of a display column are the candidates of its name and the ids of the fields that are shown
in it. -/
theorem keys_of_ofFields {fields : List SelectedField} {grouping : List GroupingKey}
    (built : ofFields catalog fields = .ok grouping) : ∀ grouped ∈ grouping,
      grouped.accessor.keys = (catalog.candidateKeys grouped.column ++
        idsShown catalog fields grouped.column).eraseDups := by
  refine (foldlM_keeps (fun taken (grouping : List GroupingKey) =>
    grouping.map (·.column) = (taken.map (·.column catalog)).eraseDups ∧
      ∀ grouped ∈ grouping, grouped.accessor.keys = (catalog.candidateKeys grouped.column ++
        idsShown catalog taken grouped.column).eraseDups) ?_ [] fields [] grouping ⟨rfl, nofun⟩ built).2
  intro taken before field after held added
  refine ⟨columns_add held.1 added, ?_⟩
  obtain ⟨columns, listed⟩ := held
  intro grouped inside
  rw [idsShown_concat, ← List.append_assoc]
  unfold add at added
  dsimp only at added
  split at added
  · rw [← Except.ok.inj added, addKey_eq_map (columns ▸ nodup_eraseDups _)] at inside
    obtain ⟨earlier, known, rfl⟩ := List.mem_map.mp inside
    by_cases same : earlier.column = field.column catalog
    · rw [if_pos same, if_pos same.symm]
      exact withKey_eq (listed earlier known) field.fieldId
    · rw [if_neg same, if_neg (Ne.symm same), List.append_nil]
      exact listed earlier known
  · rename_i fresh
    have unknown : ∀ earlier ∈ before, earlier.column ≠ field.column catalog := by
      simpa using fresh
    obtain ⟨accessor, resolved, same⟩ := bind_eq_ok.mp added
    cases same
    rcases List.mem_append.mp inside with earlier | own
    · rw [if_neg (Ne.symm (unknown grouped earlier)), List.append_nil]
      exact listed grouped earlier
    · -- No earlier field is shown in the new column.
      have unshown : idsShown catalog taken (field.column catalog) = [] := by
        refine List.map_eq_nil_iff.mpr (List.filter_eq_nil_iff.mpr fun other member => ?_)
        intro shown
        have column : field.column catalog ∈ before.map (·.column) := by
          rw [columns, List.mem_eraseDups, ← of_decide_eq_true shown]
          exact List.mem_map_of_mem member
        obtain ⟨earlier, known, same⟩ := List.mem_map.mp column
        exact unknown earlier known same
      obtain ⟨derivations, _, same⟩ := bind_eq_ok.mp resolved
      rw [List.mem_singleton.mp own, unshown, if_pos rfl, List.append_nil]
      cases same
      rfl

end GroupingKey

/-- Asked in whatever order, for a display name or within a form, the keys that are answered are the
name, the id that is declared with it, and the ids of the fields of this name, each once and in the
order of forms and fields. A display column has these keys for its name, and behind them the ids of all
fields that are shown in it. -/
theorem Catalog.enumerates_keys (catalog : Catalog) :
    (∀ requests : List KeyRequest,
      ((requests.mapM KeyMemo.answer).run (.new catalog)).1 = requests.map (·.keys catalog)) ∧
    (∀ name, Enumerates (catalog.candidateKeys name) [name]
      (catalog.flatMap (·.idsNamed name))) ∧
    (∀ formId fieldId name, Enumerates (catalog.keysInForm formId fieldId name)
      (if fieldId = name then [name] else [name, fieldId]) (catalog.idsInForm formId name)) ∧
    ∀ fields grouping, GroupingKey.ofFields catalog fields = .ok grouping →
      grouping.map (·.column) = (fields.map (·.column catalog)).eraseDups ∧
        ∀ key ∈ grouping, Enumerates key.accessor.keys (catalog.candidateKeys key.column)
          (GroupingKey.idsShown catalog fields key.column) := by
  refine ⟨(KeyMemo.faithful_new catalog).answers, ?_, ?_, ?_⟩
  · exact fun name => enumerates_eraseDups (List.nodup_singleton name) _
  · intro formId fieldId name
    rw [keysInForm_eq]
    exact enumerates_eraseDups (nodup_declaredKeys fieldId name) _
  · intro fields grouping built
    refine ⟨GroupingKey.columns_ofFields built, fun key inside => ?_⟩
    rw [GroupingKey.keys_of_ofFields built key inside]
    exact enumerates_eraseDups (nodup_eraseDups _) _

/-- Two forms with species under different ids, of which one form has them twice. -/
def speciesTwice : Catalog :=
  [⟨"in", [.plain "s" "Species" .text]⟩,
    ⟨"out", [.plain "x" "Species" .text, .plain "s" "Species" .text, .plain "k" "Kind" .text]⟩]

/-- Kinds that are shown as species give their column an id of their own. -/
theorem Catalog.enumerates_keys_species :
    ∃ grouping, GroupingKey.ofFields speciesTwice
        [⟨"in", "s", ""⟩, ⟨"out", "k", "Species"⟩, ⟨"out", "x", ""⟩] = .ok grouping ∧
      (∀ key ∈ grouping, Enumerates key.accessor.keys (speciesTwice.candidateKeys key.column)
        ["s", "k", "x"]) ∧
      grouping.map (·.accessor.keys) = [["Species", "s", "x", "k"]] := by
  have built : GroupingKey.ofFields speciesTwice
      [⟨"in", "s", ""⟩, ⟨"out", "k", "Species"⟩, ⟨"out", "x", ""⟩] =
        .ok [⟨"Species", ⟨["Species", "s", "x", "k"], .text, []⟩⟩] := by decide +kernel
  refine ⟨_, built, fun key inside => ?_, rfl⟩
  have listed := (speciesTwice.enumerates_keys.2.2.2 _ _ built).2 key inside
  rw [List.mem_singleton.mp inside] at listed ⊢
  exact listed

end FormReport
