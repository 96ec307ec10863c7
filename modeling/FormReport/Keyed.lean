set_option autoImplicit false

/- Values under names, in the order in which the names were first set. -/
namespace FormReport

abbrev Keyed (α : Type) := List (String × α)

namespace Keyed

variable {α : Type}

/-- The value under a name. -/
def get? (entries : Keyed α) (key : String) : Option α := entries.lookup key

/-- Puts a value under a name, in place of the one that is there. -/
def set (entries : Keyed α) (key : String) (value : α) : Keyed α :=
  match entries with
  | [] => [(key, value)]
  | (name, old) :: rest =>
    if name = key then (name, value) :: rest else (name, old) :: set rest key value

def keys (entries : Keyed α) : List String := entries.map Prod.fst

/-- The entries set one after the other. -/
def ofList (entries : List (String × α)) : Keyed α :=
  entries.foldl (fun table entry => table.set entry.1 entry.2) []

@[simp] theorem get?_nil (key : String) : get? ([] : Keyed α) key = none := rfl

theorem get?_cons (name key : String) (value : α) (rest : Keyed α) :
    get? ((name, value) :: rest) key = if key = name then some value else get? rest key := by
  by_cases same : key = name
  · simp [get?, same]
  · have apart : (key == name) = false := by simp [same]
    simp [get?, List.lookup_cons, same, apart]

theorem mem_of_get? {entries : Keyed α} {key : String} {value : α}
    (found : entries.get? key = some value) : (key, value) ∈ entries := by
  induction entries with
  | nil => cases found
  | cons entry rest ih =>
    obtain ⟨name, first⟩ := entry
    rw [get?_cons] at found
    split at found
    · rename_i same
      cases found
      exact same ▸ List.mem_cons_self
    · exact List.mem_cons_of_mem _ (ih found)

theorem get?_set (entries : Keyed α) (key other : String) (value : α) :
    (entries.set key value).get? other =
      if other = key then some value else entries.get? other := by
  induction entries with
  | nil => simp [set, get?_cons]
  | cons entry rest ih =>
    obtain ⟨name, old⟩ := entry
    by_cases same : name = key
    · subst same
      by_cases asked : other = name <;> simp [set, get?_cons, asked]
    · by_cases asked : other = name
      · subst asked
        simp [set, get?_cons, same]
      · simp [set, get?_cons, same, asked, ih]

theorem mem_of_mem_set {entries : Keyed α} {key : String} {value : α} {entry : String × α}
    (inside : entry ∈ entries.set key value) : entry ∈ entries ∨ entry = (key, value) := by
  induction entries with
  | nil => exact Or.inr (List.mem_singleton.mp inside)
  | cons head rest ih =>
    obtain ⟨name, old⟩ := head
    rw [set] at inside
    split at inside
    · rename_i same
      rcases List.mem_cons.mp inside with rfl | later
      · exact Or.inr (same ▸ rfl)
      · exact Or.inl (List.mem_cons_of_mem _ later)
    · rcases List.mem_cons.mp inside with rfl | later
      · exact Or.inl List.mem_cons_self
      · exact (ih later).imp_left (List.mem_cons_of_mem _)

theorem keys_set (entries : Keyed α) (key : String) (value : α) :
    (entries.set key value).keys =
      if key ∈ entries.keys then entries.keys else entries.keys ++ [key] := by
  induction entries with
  | nil => simp [set, keys]
  | cons entry rest ih =>
    obtain ⟨name, old⟩ := entry
    by_cases same : name = key
    · simp [set, keys, same]
    · have apart : ¬ key = name := fun equal => same equal.symm
      simp only [keys] at ih
      by_cases inside : key ∈ rest.map Prod.fst <;> simp [set, keys, same, apart, ih, inside]

theorem get?_of_mem {entries : Keyed α} {key : String} {value : α} (distinct : entries.keys.Nodup)
    (inside : (key, value) ∈ entries) : entries.get? key = some value := by
  induction entries with
  | nil => cases inside
  | cons entry rest ih =>
    obtain ⟨name, first⟩ := entry
    obtain ⟨fresh, distinct⟩ := List.nodup_cons.mp distinct
    rw [get?_cons]
    rcases List.mem_cons.mp inside with here | later
    · cases here
      rw [if_pos rfl]
    · have apart : key ≠ name := by
        rintro rfl
        exact fresh (List.mem_map.mpr ⟨(key, value), later, rfl⟩)
      rw [if_neg apart, ih distinct later]

theorem mem_keys_set (entries : Keyed α) (key other : String) (value : α) :
    other ∈ (entries.set key value).keys ↔ other ∈ entries.keys ∨ other = key := by
  rw [keys_set]
  split
  · rename_i inside
    constructor
    · exact Or.inl
    · rintro (member | rfl)
      · exact member
      · exact inside
  · rw [List.mem_append, List.mem_singleton]

theorem nodup_keys_set (entries : Keyed α) (key : String) (value : α)
    (distinct : entries.keys.Nodup) : (entries.set key value).keys.Nodup := by
  rw [keys_set]
  split
  · exact distinct
  · rename_i fresh
    rw [List.nodup_append]
    refine ⟨distinct, by simp, ?_⟩
    intro name inside other here same
    rw [List.mem_singleton] at here
    exact fresh (here ▸ same ▸ inside)

/-- Values set one after the other leave the keys of both sides. -/
theorem mem_keys_foldl_set (values : List (String × α)) (table : Keyed α) (key : String) :
    key ∈ keys (values.foldl (fun table entry => table.set entry.1 entry.2) table) ↔
      key ∈ table.keys ∨ key ∈ values.map Prod.fst := by
  induction values generalizing table with
  | nil => simp
  | cons entry rest ih =>
    rw [List.foldl_cons, ih, mem_keys_set, List.map_cons, List.mem_cons, or_assoc]

theorem nodup_keys_foldl_set (values : List (String × α)) (table : Keyed α)
    (distinct : table.keys.Nodup) :
    (keys (values.foldl (fun table entry => table.set entry.1 entry.2) table)).Nodup := by
  induction values generalizing table with
  | nil => exact distinct
  | cons entry rest ih => exact ih _ (nodup_keys_set table entry.1 entry.2 distinct)

/-- Nothing is in a table that was not there before or was set. -/
theorem mem_of_mem_foldl_set {values : List (String × α)} {table : Keyed α} {entry : String × α}
    (inside : entry ∈ values.foldl (fun table entry => table.set entry.1 entry.2) table) :
    entry ∈ table ∨ entry ∈ values := by
  induction values generalizing table with
  | nil => exact Or.inl inside
  | cons value rest ih =>
    rcases ih inside with earlier | later
    · rcases mem_of_mem_set earlier with kept | rfl
      · exact Or.inl kept
      · exact Or.inr List.mem_cons_self
    · exact Or.inr (List.mem_cons_of_mem _ later)

/-- A value stays where nothing is set under its name. -/
theorem get?_foldl_set_of_not_mem {values : List (String × α)} {key : String}
    (absent : key ∉ values.map Prod.fst) (table : Keyed α) :
    get? (values.foldl (fun table entry => table.set entry.1 entry.2) table) key =
      table.get? key := by
  induction values generalizing table with
  | nil => rfl
  | cons entry rest ih =>
    rw [List.map_cons, List.mem_cons, not_or] at absent
    rw [List.foldl_cons, ih absent.2, get?_set, if_neg absent.1]

/-- Values under distinct names are all there in the end. -/
theorem get?_foldl_set_of_mem {values : List (String × α)} {key : String} {value : α}
    (distinct : (values.map Prod.fst).Nodup) (inside : (key, value) ∈ values) (table : Keyed α) :
    get? (values.foldl (fun table entry => table.set entry.1 entry.2) table) key = some value := by
  induction values generalizing table with
  | nil => cases inside
  | cons entry rest ih =>
    obtain ⟨fresh, distinct⟩ := List.nodup_cons.mp distinct
    rw [List.foldl_cons]
    rcases List.mem_cons.mp inside with rfl | later
    · rw [get?_foldl_set_of_not_mem fresh, get?_set, if_pos rfl]
    · exact ih distinct later _

theorem set_of_not_mem (entries : Keyed α) (key : String) (value : α)
    (fresh : key ∉ entries.keys) : entries.set key value = entries ++ [(key, value)] := by
  induction entries with
  | nil => rfl
  | cons entry rest ih =>
    obtain ⟨name, old⟩ := entry
    simp only [keys, List.map_cons, List.mem_cons, not_or] at fresh
    have apart : ¬ name = key := fun same => fresh.1 same.symm
    simp only [set, apart, ↓reduceIte, ih fresh.2, List.cons_append]

theorem mem_keys_ofList (entries : List (String × α)) (key : String) :
    key ∈ (ofList entries).keys ↔ key ∈ entries.map Prod.fst := by
  rw [ofList, mem_keys_foldl_set]
  simp [keys]

theorem nodup_keys_ofList (entries : List (String × α)) : (ofList entries).keys.Nodup :=
  nodup_keys_foldl_set entries [] List.nodup_nil

/-- Entries under distinct names stay as they are. -/
theorem ofList_of_nodup (entries : List (String × α)) (distinct : (entries.map Prod.fst).Nodup) :
    ofList entries = entries := by
  suffices general : ∀ table : Keyed α, (keys (table ++ entries)).Nodup →
      entries.foldl (fun table entry => table.set entry.1 entry.2) table = table ++ entries by
    exact general [] distinct
  clear distinct
  induction entries with
  | nil =>
    intro table _
    rw [List.append_nil, List.foldl_nil]
  | cons entry rest ih =>
    intro table distinct
    have fresh : entry.1 ∉ table.keys := by
      simp only [keys, List.map_append, List.map_cons, List.nodup_append] at distinct
      exact fun inside => distinct.2.2 _ inside _ List.mem_cons_self rfl
    rw [List.append_cons] at distinct ⊢
    rw [List.foldl_cons, set_of_not_mem _ _ _ fresh]
    exact ih _ distinct

end Keyed

end FormReport
