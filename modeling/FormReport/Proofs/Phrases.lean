import FormReport.Diagnostic
import FormReport.Proofs.Sequence
import Mathlib.Data.List.Find

set_option autoImplicit false

/- The phrases by which the text of a backend is understood. They are looked for in the lowercased text,
which is to look for them in the text itself in whatever case. Lowercase by the full mapping is less than
tame: a sigma depends on its surroundings, one capital becomes two letters, and the sign for the kelvin
becomes a plain k. Only the last has any part in a phrase. -/
namespace FormReport

namespace Text

/-- Whether a character is a small one in some case: the Kelvin sign is the one capital of a plain letter
that is not plain itself. -/
def IsCaseOf (c small : Char) : Prop := c.toLower = small ∨ c = '\u212A' ∧ small = 'k'

/-- Whether a phrase occurs in a text, in whatever case. -/
def Mentions (text phrase : String) : Prop :=
  ∃ before piece after, text.toList = before ++ piece ++ after ∧
    List.Forall₂ IsCaseOf piece phrase.toList

/-- Whether a character is an ASCII one and not the null character. -/
def isPlain (c : Char) : Bool := 0 < c.toNat && c.toNat < 128

/-- Whether characters are plain and do not end in an i, which with a dot above it could be the start of
what a capital becomes. -/
def IsPhrase (chars : List Char) : Prop :=
  chars ≠ [] ∧ chars.getLast? ≠ some 'i' ∧ chars.all isPlain = true

instance (chars : List Char) : Decidable (IsPhrase chars) :=
  inferInstanceAs (Decidable (_ ∧ _ ∧ _))

theorem isPlain_iff {c : Char} : isPlain c = true ↔ 0 < c.toNat ∧ c.toNat < 128 := by
  simp [isPlain]

theorem toLower_of_le {c : Char} (outside : 128 ≤ c.toNat) : c.toLower = c := by
  unfold Char.toLower
  rw [dif_neg]
  intro capital
  have bound : c.toNat ≤ 90 := UInt32.le_iff_toNat_le.mp capital.2
  omega

/-- Small letters of capitals outside ASCII are outside ASCII, but for the Kelvin sign. -/
theorem caseRuns_outside : ∀ run ∈ caseRuns,
    128 ≤ run.first + run.offset ∨ run.first = 0x212A ∧ run.last = 0x212A := by
  decide +kernel

theorem lt_of_isPlain_ofNat {code : Nat} (plain : isPlain (Char.ofNat code) = true) : code < 128 := by
  have small := isPlain_iff.mp plain
  unfold Char.ofNat at small
  by_cases valid : code.isValidChar
  · rw [dif_pos valid] at small
    exact small.2
  · rw [dif_neg valid] at small
    cases small.1

/-- A character that has one small letter has a plain one just when it is a case of that. -/
theorem lowerChar_cases (c : Char) : c = 'İ' ∨ ∃ small, lowerChar c = [small] ∧
    ∀ p, isPlain p = true → (small = p ↔ IsCaseOf c p) := by
  by_cases ascii : c.toNat < 128
  · refine .inr ⟨c.toLower, by rw [lowerChar, if_pos ascii], fun p _ => (or_iff_left ?_).symm⟩
    rintro ⟨rfl, _⟩
    exact absurd ascii (by decide)
  · by_cases dotted : c = 'İ'
    · exact .inl dotted
    · right
      have outside {p : Char} (plain : isPlain p = true) : c.toLower ≠ p := by
        rintro rfl
        rw [toLower_of_le (Nat.le_of_not_lt ascii)] at plain
        exact ascii (isPlain_iff.mp plain).2
      by_cases kelvin : c = '\u212A'
      · refine ⟨'k', by rw [kelvin]; decide +kernel, fun p plain => ?_⟩
        rw [IsCaseOf, or_iff_right (outside plain), and_iff_right kelvin, eq_comm]
      · have apart {p : Char} (plain : isPlain p = true) : ¬ IsCaseOf c p :=
          not_or.mpr ⟨outside plain, fun also => kelvin also.1⟩
        unfold lowerChar
        rw [if_neg ascii, if_neg dotted]
        split
        · rename_i run found
          refine ⟨_, rfl, fun p plain => iff_of_false ?_ (apart plain)⟩
          rintro rfl
          have small := lt_of_isPlain_ofNat plain
          have covers := List.find?_some found
          simp only [CaseRun.covers, Bool.and_eq_true, decide_eq_true_eq] at covers
          rcases caseRuns_outside run (List.mem_of_find?_eq_some found) with far | ⟨first, last⟩
          · omega
          · exact kelvin (Char.toNat_inj.mp (by change c.toNat = 0x212A; omega))
        · refine ⟨c, rfl, fun p plain => iff_of_false ?_ (apart plain)⟩
          rintro rfl
          exact ascii (isPlain_iff.mp plain).2

/-- Lowercase goes on from character to character. Each has one small letter there, and if that is plain
it is a case of it; or it is the one capital that becomes two letters. -/
theorem lowerAfter_cons (before : List Char) (c : Char) (rest : List Char) :
    (c = 'İ' ∧
      lowerAfter before (c :: rest) = 'i' :: '\u0307' :: lowerAfter (c :: before) rest) ∨
    ∃ small, lowerAfter before (c :: rest) = small :: lowerAfter (c :: before) rest ∧
      ∀ p, isPlain p = true → (small = p ↔ IsCaseOf c p) := by
  rw [lowerAfter]
  split
  · rename_i sigma
    refine .inr ⟨_, rfl, fun p plain => iff_of_false ?_ ?_⟩
    · rintro rfl
      split at plain <;> exact absurd plain (by decide)
    · rw [sigma]
      rintro (rfl | ⟨impossible, _⟩)
      · exact absurd plain (by decide)
      · exact absurd impossible (by decide)
  · rcases lowerChar_cases c with rfl | ⟨small, lowered, same⟩
    · exact .inl ⟨rfl, rfl⟩
    · exact .inr ⟨small, by rw [lowered]; rfl, same⟩

/-- A phrase stands at the front of a lowercased text just when a case of it stands at the front of the
text. -/
theorem prefix_lowerAfter_iff {phrase : List Char} (unfinished : phrase.getLast? ≠ some 'i')
    (plain : phrase.all isPlain = true) (before chars : List Char) :
    phrase <+: lowerAfter before chars ↔
      ∃ piece after, chars = piece ++ after ∧ List.Forall₂ IsCaseOf piece phrase := by
  induction phrase generalizing before chars with
  | nil => exact iff_of_true List.nil_prefix ⟨[], chars, rfl, .nil⟩
  | cons p rest ih =>
    rw [List.all_cons, Bool.and_eq_true] at plain
    cases chars with
    | nil =>
      refine iff_of_false (fun front => ?_) ?_
      · cases List.prefix_nil.mp front
      · rintro ⟨piece, after, split, cased⟩
        obtain ⟨rfl, rfl⟩ := List.append_eq_nil_iff.mp split.symm
        cases cased
    | cons c others =>
      have peel : (∃ piece after, c :: others = piece ++ after ∧
          List.Forall₂ IsCaseOf piece (p :: rest)) ↔ IsCaseOf c p ∧
            ∃ piece after, others = piece ++ after ∧ List.Forall₂ IsCaseOf piece rest := by
        constructor
        · rintro ⟨piece, after, split, cased⟩
          obtain ⟨first, tail, own, others, rfl⟩ := List.forall₂_cons_right_iff.mp cased
          obtain ⟨rfl, rfl⟩ := List.cons.inj split
          exact ⟨own, tail, after, rfl, others⟩
        · rintro ⟨own, piece, after, rfl, cased⟩
          exact ⟨c :: piece, after, rfl, .cons own cased⟩
      rw [peel]
      rcases lowerAfter_cons before c others with ⟨rfl, lowered⟩ | ⟨small, lowered, same⟩
      · rw [lowered]
        -- The dot above is not plain, so that a phrase would have to end before it.
        refine iff_of_false (fun front => ?_) ?_
        · obtain ⟨rfl, dotted⟩ := List.cons_prefix_cons.mp front
          cases rest with
          | nil => exact unfinished rfl
          | cons q further =>
            rw [(List.cons_prefix_cons.mp dotted).1, List.all_cons, Bool.and_eq_true] at plain
            exact absurd plain.2.1 (by decide)
        · rintro ⟨rfl | ⟨impossible, _⟩, _⟩
          · exact absurd plain.1 (by decide)
          · exact absurd impossible (by decide)
      · rw [lowered, List.cons_prefix_cons, eq_comm, same p plain.1]
        refine and_congr_right fun _ => ?_
        cases rest with
        | nil => exact iff_of_true List.nil_prefix ⟨[], others, rfl, .nil⟩
        | cons q further => exact ih unfinished plain.2 _ others

theorem occurs_iff {part chars : List Char} : occurs part chars = true ↔ part <:+: chars := by
  induction chars with
  | nil => rw [occurs, List.isEmpty_iff, List.infix_nil]
  | cons c rest ih =>
    rw [occurs, Bool.or_eq_true, List.isPrefixOf_iff_prefix, ih, List.infix_cons_iff]

/-- What holds somewhere in a list holds at its front or further on. -/
theorem exists_piece_cons_iff {Fits : List Char → Prop} {c : Char} {rest : List Char} :
    (∃ before piece after, c :: rest = before ++ piece ++ after ∧ Fits piece) ↔
      (∃ piece after, c :: rest = piece ++ after ∧ Fits piece) ∨
        ∃ before piece after, rest = before ++ piece ++ after ∧ Fits piece := by
  constructor
  · rintro ⟨before, piece, after, split, fits⟩
    cases before with
    | nil => exact .inl ⟨piece, after, split, fits⟩
    | cons first before =>
      obtain ⟨rfl, rfl⟩ := List.cons.inj split
      exact .inr ⟨before, piece, after, rfl, fits⟩
  · rintro (⟨piece, after, split, fits⟩ | ⟨before, piece, after, rfl, fits⟩)
    · exact ⟨[], piece, after, split, fits⟩
    · exact ⟨c :: before, piece, after, rfl, fits⟩

theorem infix_lowerAfter_iff {phrase : List Char} (fit : IsPhrase phrase) (before chars : List Char) :
    phrase <:+: lowerAfter before chars ↔ ∃ earlier piece later,
      chars = earlier ++ piece ++ later ∧ List.Forall₂ IsCaseOf piece phrase := by
  obtain ⟨some, unfinished, plain⟩ := fit
  induction chars generalizing before with
  | nil =>
    refine iff_of_false (fun inside => some (List.infix_nil.mp inside)) ?_
    rintro ⟨earlier, piece, later, split, cased⟩
    obtain ⟨split, _⟩ := List.append_eq_nil_iff.mp split.symm
    rw [(List.append_eq_nil_iff.mp split).2] at cased
    cases cased
    exact some rfl
  | cons c rest ih =>
    rw [exists_piece_cons_iff, ← prefix_lowerAfter_iff unfinished plain before, ← ih (c :: before)]
    rcases lowerAfter_cons before c rest with ⟨_, lowered⟩ | ⟨small, lowered, _⟩
    · rw [lowered, List.infix_cons_iff, List.infix_cons_iff]
      -- No phrase starts with the dot above.
      have undotted : ¬ phrase <+: '\u0307' :: lowerAfter (c :: before) rest := by
        intro front
        cases phrase with
        | nil => exact some rfl
        | cons p further =>
          rw [(List.cons_prefix_cons.mp front).1, List.all_cons, Bool.and_eq_true] at plain
          exact absurd plain.1 (by decide)
      rw [or_iff_right undotted]
    · rw [lowered, List.infix_cons_iff]

/-- A phrase is found in a lowercased text just when it occurs in the text in some case. -/
theorem containsText_lowercase_iff {phrase : String} (fit : IsPhrase phrase.toList) (text : String) :
    containsText (lowercase text) phrase = true ↔ Mentions text phrase := by
  rw [containsText, occurs_iff, lowercase, String.toList_ofList, infix_lowerAfter_iff fit, Mentions]

/-- No ASCII letter has the Kelvin sign for its small letter. -/
theorem toLower_eq_kelvin_iff {c : Char} : c.toLower = '\u212A' ↔ c = '\u212A' := by
  by_cases ascii : c.toNat < 128
  · have letters : ∀ code < 128, (Char.ofNat code).toLower ≠ '\u212A' ∧ Char.ofNat code ≠ '\u212A' := by
      decide +kernel
    have apart := letters c.toNat ascii
    rw [Char.ofNat_toNat] at apart
    exact iff_of_false apart.1 apart.2
  · rw [toLower_of_le (Nat.not_lt.mp ascii)]

/-- Whether a phrase occurs in a text is seen when the ASCII letters of the text are small. -/
theorem mentions_iff_toLower {text phrase : String} : Mentions text phrase ↔
    ∃ before piece after, text.toList.map Char.toLower = before ++ piece ++ after ∧
      List.Forall₂ (fun c small => c = small ∨ c = '\u212A' ∧ small = 'k') piece phrase.toList := by
  have cased (piece : List Char) : List.Forall₂ IsCaseOf piece phrase.toList ↔
      List.Forall₂ (fun c small => c = small ∨ c = '\u212A' ∧ small = 'k')
        (piece.map Char.toLower) phrase.toList := by
    simp only [List.forall₂_map_left_iff, toLower_eq_kelvin_iff]
    rfl
  constructor
  · rintro ⟨before, piece, after, split, known⟩
    refine ⟨before.map Char.toLower, _, after.map Char.toLower, ?_, (cased piece).mp known⟩
    rw [split, List.map_append, List.map_append]
  · rintro ⟨_, _, _, split, known⟩
    obtain ⟨front, after, whole, lowered, rfl⟩ := List.map_eq_append_iff.mp split
    obtain ⟨before, piece, rfl, rfl, rfl⟩ := List.map_eq_append_iff.mp lowered
    exact ⟨before, piece, after, whole, (cased piece).mpr known⟩

/-- The case of ASCII letters is of no account. -/
theorem mentions_congr {text other phrase : String}
    (same : text.toList.map Char.toLower = other.toList.map Char.toLower) :
    Mentions text phrase ↔ Mentions other phrase := by
  rw [mentions_iff_toLower, mentions_iff_toLower, same]

end Text

namespace ErrorKind

/-- Whether a phrase of a class occurs in a text, in whatever case. -/
def Occurs (text : String) (entry : ErrorKind × List String) : Prop :=
  ∃ phrase ∈ entry.2, Text.Mentions text phrase

theorem isPhrase_of_backendPhrases :
    ∀ entry ∈ backendPhrases, ∀ phrase ∈ entry.2, Text.IsPhrase phrase.toList := by
  decide +kernel

variable {text other : String} {kind : ErrorKind}

theorem any_containsText_iff {entry : ErrorKind × List String} (listed : entry ∈ backendPhrases) :
    entry.2.any (Text.containsText (Text.lowercase text)) = true ↔ Occurs text entry := by
  rw [List.any_eq_true]
  refine exists_congr fun phrase => and_congr_right fun inside => ?_
  exact Text.containsText_lowercase_iff (isPhrase_of_backendPhrases entry listed phrase inside) text

/-- A text is understood by the first class of the table of which a phrase occurs in it. -/
theorem ofBackendText?_eq_some_iff : ofBackendText? text = some kind ↔
    ∃ before phrases after, backendPhrases = before ++ (kind, phrases) :: after ∧
      Occurs text (kind, phrases) ∧ ∀ entry ∈ before, ¬ Occurs text entry := by
  rw [ofBackendText?, Option.map_eq_some_iff]
  constructor
  · rintro ⟨⟨_, phrases⟩, found, rfl⟩
    obtain ⟨some, before, after, split, none⟩ := List.find?_eq_some_iff_append.mp found
    have listed (entry : ErrorKind × List String) (inside : entry ∈ before) :
        entry ∈ backendPhrases := split ▸ List.mem_append_left _ inside
    refine ⟨before, phrases, after, split, ?_, fun entry inside occurs => ?_⟩
    · exact (any_containsText_iff (List.mem_of_find?_eq_some found)).mp some
    · have missed := none entry inside
      rw [(any_containsText_iff (listed entry inside)).mpr occurs] at missed
      cases missed
  · rintro ⟨before, phrases, after, split, some, none⟩
    refine ⟨(kind, phrases), List.find?_eq_some_iff_append.mpr ⟨?_, before, after, split, ?_⟩, rfl⟩
    · refine (any_containsText_iff ?_).mpr some
      exact split ▸ List.mem_append_right _ List.mem_cons_self
    · intro entry inside
      have listed : entry ∈ backendPhrases := split ▸ List.mem_append_left _ inside
      rw [Bool.not_eq_true', ← Bool.not_eq_true, any_containsText_iff listed]
      exact none entry inside

theorem ofBackendText?_eq_none_iff :
    ofBackendText? text = none ↔ ∀ entry ∈ backendPhrases, ¬ Occurs text entry := by
  rw [ofBackendText?, Option.map_eq_none_iff, List.find?_eq_none]
  exact forall₂_congr fun entry listed => not_congr (any_containsText_iff listed)

/-- Nothing else counts about a text than which classes occur in it. -/
theorem ofBackendText?_congr
    (same : ∀ entry ∈ backendPhrases, Occurs text entry ↔ Occurs other entry) :
    ofBackendText? text = ofBackendText? other := by
  rw [ofBackendText?, ofBackendText?]
  refine congrArg (Option.map _) (List.find?_congr fun entry listed => Bool.eq_iff_iff.mpr ?_)
  rw [any_containsText_iff listed, any_containsText_iff listed, same entry listed]

end ErrorKind

end FormReport
