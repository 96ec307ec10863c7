import FormReport.Proofs.Reading

set_option autoImplicit false

/- How a list of keys is read in a stored row. The keys are looked at in their order up to the first one
under which something is said, and what stands there is the answer, be it a value or the error that it is
none. What stands under the keys behind it has no part in the answer. -/
namespace FormReport

/-- A list or an object in the place of a value. -/
inductive Json.IsNested : Json → Prop
  | array (items : List Json) : IsNested (.array items)
  | object (fields : List (String × Json)) : IsNested (.object fields)

theorem Json.isNested_iff {stored : Json} : stored.IsNested ↔ Cell.ofJson? stored = none := by
  constructor
  · rintro (_ | _) <;> rfl
  · intro unread
    cases stored with
    | array items => exact .array items
    | object fields => exact .object fields
    | _ => cases unread

theorem Json.isMeaningful_eq_false_iff {stored : Json} :
    stored.isMeaningful = false ↔ stored = .null ∨ stored = .text "" := by
  cases stored <;> simp [isMeaningful]

/-- The type of a field makes nothing blank and fills nothing. -/
theorem Cell.isBlank_typed (cell : Cell) (valueType : ValueType) :
    (cell.typed valueType).isBlank = cell.isBlank := by
  unfold typed
  split
  · rename_i text
    split
    · -- A text that reads as a number is not empty.
      rename_i counted
      have filled : text ≠ "" := by
        rintro rfl
        cases Number.ofText?_empty.symm.trans counted
      exact (String.isEmpty_eq_false_iff.mpr filled).symm
    · rfl
  · split <;> rfl
  · rfl

namespace StoredRow

variable {row other : StoredRow} {keys before : List String} {key : String} {value : Json}

/-- Nothing is said under a key: there is no value, or null, or the empty text. -/
def IsSilent (row : StoredRow) (key : String) : Prop :=
  row.fields.get? key = none ∨ row.fields.get? key = some .null ∨
    row.fields.get? key = some (.text "")

theorem isSilent_iff : row.IsSilent key ↔ row.stored? key = none := by
  unfold IsSilent stored?
  cases row.fields.get? key with
  | none => simp
  | some stored =>
    rw [Option.filter_eq_none_iff]
    simp [Json.isMeaningful_eq_false_iff]

theorem isSilent_congr (same : other.fields.get? key = row.fields.get? key) :
    other.IsSilent key ↔ row.IsSilent key := by
  rw [IsSilent, IsSilent, same]

theorem stored?_eq_some_iff :
    row.stored? key = some value ↔ row.fields.get? key = some value ∧ ¬ row.IsSilent key := by
  rw [isSilent_iff]
  constructor
  · intro said
    exact ⟨(Option.filter_eq_some_iff.mp said).1, fun silent => by cases silent.symm.trans said⟩
  · rintro ⟨stored, speaks⟩
    obtain ⟨said, found⟩ := Option.ne_none_iff_exists'.mp speaks
    cases stored.symm.trans (Option.filter_eq_some_iff.mp found).1
    exact found

/-- Where the look through a list of keys comes to its end: under the keys before nothing is said, and
under the next one stands a value that says something. -/
structure StopsAt (row : StoredRow) (keys before : List String) (key : String) (value : Json) :
    Prop where
  listed : before ++ [key] <+: keys
  silent : ∀ earlier ∈ before, row.IsSilent earlier
  stored : row.fields.get? key = some value
  speaks : ¬ row.IsSilent key

theorem firstStored?_eq_some_iff :
    row.firstStored? keys = some (key, value) ↔ ∃ before, row.StopsAt keys before key value := by
  rw [firstStored?, List.findSome?_eq_some_iff]
  constructor
  · rintro ⟨before, first, after, rfl, found, passed⟩
    obtain ⟨_, said, same⟩ := Option.map_eq_some_iff.mp found
    cases same
    obtain ⟨stored, speaks⟩ := stored?_eq_some_iff.mp said
    refine ⟨before, ⟨after, (List.append_cons ..).symm⟩, fun earlier inside => ?_, stored, speaks⟩
    exact isSilent_iff.mpr (Option.map_eq_none_iff.mp (passed earlier inside))
  · rintro ⟨before, ⟨after, rfl⟩, silent, stored, speaks⟩
    refine ⟨before, key, after, (List.append_cons ..).symm, ?_, fun earlier inside => ?_⟩
    · exact Option.map_eq_some_iff.mpr ⟨value, stored?_eq_some_iff.mpr ⟨stored, speaks⟩, rfl⟩
    · exact Option.map_eq_none_iff.mpr (isSilent_iff.mp (silent earlier inside))

theorem firstStored?_eq_none_iff_silent :
    row.firstStored? keys = none ↔ ∀ key ∈ keys, row.IsSilent key :=
  firstStored?_eq_none_iff.trans (forall₂_congr fun _ _ => isSilent_iff.symm)

/-- Either nothing is said under any of the keys, or there is one at which the look stops. -/
theorem silent_or_stopsAt (row : StoredRow) (keys : List String) :
    (∀ key ∈ keys, row.IsSilent key) ∨ ∃ before key value, row.StopsAt keys before key value := by
  cases found : row.firstStored? keys with
  | none => exact .inl (firstStored?_eq_none_iff_silent.mp found)
  | some first =>
    obtain ⟨before, stops⟩ := firstStored?_eq_some_iff.mp found
    exact .inr ⟨before, _, _, stops⟩

theorem probe_of_silent (silent : ∀ key ∈ keys, row.IsSilent key) :
    FormReport.probe row.fields keys = .ok .missing := by
  rw [probe_fields, firstStored?_eq_none_iff_silent.mpr silent]

namespace StopsAt

theorem probe_eq (stops : row.StopsAt keys before key value) :
    FormReport.probe row.fields keys =
      match Cell.ofJson? value with
      | none => .error key
      | some cell => .ok cell := by
  have probed := row.probe_fields keys
  rw [firstStored?_eq_some_iff.mpr ⟨before, stops⟩] at probed
  exact probed

/-- A value that says something is no blank cell. -/
theorem isBlank_eq_false (stops : row.StopsAt keys before key value) {cell : Cell}
    (made : Cell.ofJson? value = some cell) : cell.isBlank = false := by
  have said := stored?_eq_some_iff.mpr ⟨stops.stored, stops.speaks⟩
  rw [Cell.isBlank_of_ofJson? made, (Option.filter_eq_some_iff.mp said).2]
  rfl

/-- A row that agrees with another one as far as that is looked at stops at the same place. -/
theorem transfer (stops : row.StopsAt keys before key value)
    (same : ∀ seen ∈ before ++ [key], other.fields.get? seen = row.fields.get? seen) :
    other.StopsAt keys before key value := by
  have last := same key (List.mem_append_right _ (List.mem_singleton_self key))
  refine ⟨stops.listed, fun earlier inside => ?_, last.trans stops.stored, ?_⟩
  · have agree := same earlier (List.mem_append_left _ inside)
    exact (isSilent_congr agree).mpr (stops.silent earlier inside)
  · exact (isSilent_congr last).not.mpr stops.speaks

end StopsAt

theorem probe_eq_error_iff : FormReport.probe row.fields keys = .error key ↔
    ∃ before value, row.StopsAt keys before key value ∧ value.IsNested := by
  constructor
  · intro failed
    rcases row.silent_or_stopsAt keys with silent | ⟨before, first, value, stops⟩
    · cases failed.symm.trans (probe_of_silent silent)
    · rw [stops.probe_eq] at failed
      cases made : Cell.ofJson? value with
      | none =>
        rw [made] at failed
        cases failed
        exact ⟨before, value, stops, Json.isNested_iff.mpr made⟩
      | some cell =>
        rw [made] at failed
        cases failed
  · rintro ⟨before, value, stops, nested⟩
    rw [stops.probe_eq, Json.isNested_iff.mp nested]

theorem probe_eq_ok_iff {cell : Cell} : FormReport.probe row.fields keys = .ok cell ↔
    (cell = .missing ∧ ∀ key ∈ keys, row.IsSilent key) ∨
      ∃ before key value, row.StopsAt keys before key value ∧ Cell.ofJson? value = some cell := by
  constructor
  · intro success
    rcases row.silent_or_stopsAt keys with silent | ⟨before, key, value, stops⟩
    · rw [probe_of_silent silent] at success
      cases success
      exact .inl ⟨rfl, silent⟩
    · rw [stops.probe_eq] at success
      cases made : Cell.ofJson? value with
      | none =>
        rw [made] at success
        cases success
      | some read =>
        rw [made] at success
        cases success
        exact .inr ⟨before, key, value, stops, made⟩
  · rintro (⟨rfl, silent⟩ | ⟨before, key, value, stops, made⟩)
    · exact probe_of_silent silent
    · rw [stops.probe_eq, made]

/-- What an accessor reads is missing or not blank, be it stored or computed. -/
theorem missing_or_filled_of_read {accessor : Accessor} {cell : Cell}
    (success : row.read accessor = .ok cell) : cell = .missing ∨ cell.isBlank = false := by
  rcases cases_of_read success with ⟨key, stored, scalar, found, made, rfl⟩ |
    ⟨_, ⟨_, rfl⟩ | ⟨_, value, _, _, rfl⟩⟩
  · obtain ⟨before, stops⟩ := firstStored?_eq_some_iff.mp found
    rw [Cell.isBlank_typed]
    exact .inr (stops.isBlank_eq_false made)
  · exact .inl rfl
  · cases value with
    | none => exact .inl rfl
    | some x => exact .inr rfl

/-- A list of keys is read as what stands under the first of them that says something. If that is nested,
the key is the error; if not, the value is the answer; and the answer is missing if nothing is said under
any of them. Neither the keys behind the first one nor the rest of the row has a part in it. No field reads
as an empty text, be it stored or derived. -/
theorem probe_takes_first (row : StoredRow) (keys : List String) :
    (∀ key, FormReport.probe row.fields keys = .error key ↔
      ∃ before value, row.StopsAt keys before key value ∧ value.IsNested) ∧
    (∀ cell, FormReport.probe row.fields keys = .ok cell ∧ cell.isBlank = false ↔
      ∃ before key value, row.StopsAt keys before key value ∧ Cell.ofJson? value = some cell) ∧
    (∀ cell, FormReport.probe row.fields keys = .ok cell ∧ cell.isBlank = true ↔
      cell = .missing ∧ ∀ key ∈ keys, row.IsSilent key) ∧
    (∀ (other : StoredRow) before key value, row.StopsAt keys before key value →
      (∀ seen ∈ before ++ [key], other.fields.get? seen = row.fields.get? seen) →
      FormReport.probe other.fields keys = FormReport.probe row.fields keys) ∧
    (∀ other : StoredRow, (∀ key ∈ keys, other.fields.get? key = row.fields.get? key) →
      FormReport.probe other.fields keys = FormReport.probe row.fields keys) ∧
    ∀ accessor cell, row.read accessor = .ok cell → cell = .missing ∨ cell.isBlank = false := by
  refine ⟨fun key => probe_eq_error_iff, fun cell => ?_, fun cell => ?_, ?_,
    fun other same => probe_congr same, fun accessor cell => missing_or_filled_of_read⟩
  · rw [probe_eq_ok_iff]
    constructor
    · rintro ⟨⟨rfl, _⟩ | read, filled⟩
      · cases filled
      · exact read
    · rintro ⟨before, key, value, stops, made⟩
      exact ⟨.inr ⟨before, key, value, stops, made⟩, stops.isBlank_eq_false made⟩
  · rw [probe_eq_ok_iff]
    constructor
    · rintro ⟨missing | ⟨_, _, _, stops, made⟩, blank⟩
      · exact missing
      · cases (stops.isBlank_eq_false made).symm.trans blank
    · rintro ⟨rfl, silent⟩
      exact ⟨.inl ⟨rfl, silent⟩, rfl⟩
  · intro other before key value stops same
    rw [(stops.transfer same).probe_eq, stops.probe_eq]

end StoredRow

/-- A species that is given as an empty text under its name and again under an id, with something under
another key. -/
def respelled (kind : Json) : StoredRow :=
  ⟨"1", "in", 0, [("Species", .text ""), ("s", .text "Carp"), ("kind", kind)]⟩

/-- What stands behind the species is not looked at, while a list before it is an error. -/
theorem StoredRow.probe_takes_first_species :
    (respelled .null).StopsAt ["Species", "x", "s", "kind"] ["Species", "x"] "s" (.text "Carp") ∧
    FormReport.probe (respelled .null).fields ["Species", "x", "s", "kind"] = .ok (.text "Carp") ∧
    FormReport.probe (respelled (.array [])).fields ["Species", "x", "s", "kind"] =
      .ok (.text "Carp") ∧
    FormReport.probe (respelled (.array [])).fields ["Species", "kind", "s"] = .error "kind" ∧
    FormReport.probe (respelled .null).fields ["Species", "kind"] = .ok .missing ∧
    (respelled .null).read ⟨["Species", "s"], .text, []⟩ = .ok (.text "Carp") ∧
    (Cell.text "Carp").isBlank = false := by
  have empty (kind : Json) : (respelled kind).IsSilent "Species" := .inr (.inr rfl)
  have stops : (respelled .null).StopsAt ["Species", "x", "s", "kind"] ["Species", "x"] "s"
      (.text "Carp") := by
    obtain ⟨stored, speaks⟩ := stored?_eq_some_iff.mp
      (show (respelled .null).stored? "s" = some (.text "Carp") from rfl)
    refine ⟨⟨["kind"], rfl⟩, ?_, stored, speaks⟩
    simpa using ⟨empty .null, .inl rfl⟩
  have nested : (respelled (.array [])).StopsAt ["Species", "kind", "s"] ["Species"] "kind"
      (.array []) := by
    obtain ⟨stored, speaks⟩ := stored?_eq_some_iff.mp
      (show (respelled (.array [])).stored? "kind" = some (.array []) from rfl)
    exact ⟨⟨["s"], rfl⟩, by simpa using empty (.array []), stored, speaks⟩
  obtain ⟨-, values, -, agreeing, -, reads⟩ :=
    probe_takes_first (respelled .null) ["Species", "x", "s", "kind"]
  have probed := ((values (.text "Carp")).mpr ⟨_, _, _, stops, rfl⟩).1
  have read : (respelled .null).read ⟨["Species", "s"], .text, []⟩ = .ok (.text "Carp") := rfl
  refine ⟨stops, probed, ?_, ?_, ?_, read, (reads _ _ read).resolve_left nofun⟩
  · exact (agreeing _ _ _ _ stops (by simp [respelled, Keyed.get?_cons])).trans probed
  · exact ((probe_takes_first _ _).1 "kind").mpr ⟨_, _, nested, .array []⟩
  · exact (((probe_takes_first _ _).2.2.1 .missing).mpr
      ⟨rfl, by simpa using ⟨empty .null, .inr (.inl rfl)⟩⟩).1

end FormReport
