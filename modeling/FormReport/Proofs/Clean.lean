import FormReport.Access
import FormReport.Proofs.Spelling
import Mathlib.Data.List.DropRight
import Mathlib.Data.String.Basic

set_option autoImplicit false

/- Texts that cleaning leaves alone. Trimming and collecting into a set do nothing to what they have
made, and the text of a number has no blanks to trim. -/
namespace FormReport

namespace Text

/-- The characters that trimming leaves neither begin nor end with a blank. -/
theorem trimChars_trimChars (chars : List Char) : trimChars (trimChars chars) = trimChars chars := by
  have start : (trimChars chars).dropWhile isBlank = trimChars chars := by
    have ends : trimChars chars <+: chars.dropWhile isBlank := List.rdropWhile_prefix isBlank _
    rw [List.dropWhile_eq_self_iff]
    intro some
    rw [ends.getElem some]
    exact List.dropWhile_get_zero_not isBlank chars (some.trans_le ends.length_le)
  change ((trimChars chars).dropWhile isBlank).rdropWhile isBlank = trimChars chars
  rw [start]
  exact List.rdropWhile_idempotent isBlank _

@[simp] theorem trim_trim (text : String) : trim (trim text) = trim text := by
  rw [trim, trim, String.toList_ofList, trimChars_trimChars]

/-- Whether a text has no blanks anywhere. -/
def IsFilled (text : String) : Prop := ∀ c ∈ text.toList, isBlank c = false

instance (text : String) : Decidable (IsFilled text) :=
  List.decidableBAll (isBlank · = false) text.toList

theorem IsFilled.append {text other : String} (filled : IsFilled text) (more : IsFilled other) :
    IsFilled (text ++ other) := by
  intro c inside
  rw [String.toList_append] at inside
  exact (List.mem_append.mp inside).elim (filled c) (more c)

theorem isFilled_ofList {chars : List Char} (filled : ∀ c ∈ chars, isBlank c = false) :
    IsFilled (String.ofList chars) := by
  rwa [IsFilled, String.toList_ofList]

theorem trim_of_isFilled {text : String} (filled : IsFilled text) : trim text = text := by
  rw [trim, Number.trimChars_eq filled, String.ofList_toList]

theorem sorted_insertText {text : String} {texts : List String}
    (sorted : texts.Pairwise (· < ·)) : (insertText text texts).Pairwise (· < ·) := by
  induction texts with
  | nil => exact List.pairwise_singleton _ _
  | cons first rest ih =>
    obtain ⟨below, others⟩ := List.pairwise_cons.mp sorted
    rw [insertText]
    split
    · rename_i before
      refine List.pairwise_cons.mpr ⟨?_, sorted⟩
      intro other inside
      rcases List.mem_cons.mp inside with rfl | later
      · exact before
      · exact before.trans (below other later)
    · rename_i notBefore
      split
      · exact sorted
      · rename_i apart
        refine List.pairwise_cons.mpr ⟨?_, ih others⟩
        intro other inside
        rcases (mem_insertText text other rest).mp inside with rfl | later
        · exact lt_of_le_of_ne (not_lt.mp notBefore) (Ne.symm apart)
        · exact below other later

theorem sorted_textSet (texts : List String) : (textSet texts).Pairwise (· < ·) := by
  induction texts with
  | nil => exact .nil
  | cons first rest ih => exact sorted_insertText ih

/-- A set is the set of its members. -/
theorem textSet_of_sorted {texts : List String} (sorted : texts.Pairwise (· < ·)) :
    textSet texts = texts := by
  induction texts with
  | nil => rfl
  | cons first rest ih =>
    obtain ⟨below, others⟩ := List.pairwise_cons.mp sorted
    change insertText first (textSet rest) = first :: rest
    rw [ih others]
    cases rest with
    | nil => rfl
    | cons second rest => rw [insertText, if_pos (below second List.mem_cons_self)]

/-- The set of the texts that are left of some when the blanks around them are. -/
def clean (texts : List String) : List String := textSet ((texts.map trim).filter (· ≠ ""))

/-- Whether texts are in the form in which cleaning leaves them. -/
structure IsClean (texts : List String) : Prop where
  sorted : texts.Pairwise (· < ·)
  trimmed : ∀ text ∈ texts, trim text = text
  filled : ∀ text ∈ texts, text ≠ ""

theorem isClean_textSet {texts : List String} (trimmed : ∀ text ∈ texts, trim text = text) :
    IsClean (textSet (texts.filter (· ≠ ""))) := by
  refine ⟨sorted_textSet _, ?_, ?_⟩
  · intro text inside
    exact trimmed text (List.mem_of_mem_filter ((mem_textSet text _).mp inside))
  · intro text inside
    simpa using (List.mem_filter.mp ((mem_textSet text _).mp inside)).2

theorem isClean_clean (texts : List String) : IsClean (clean texts) := by
  refine isClean_textSet fun text inside => ?_
  obtain ⟨other, _, rfl⟩ := List.mem_map.mp inside
  exact trim_trim other

theorem IsClean.clean_eq {texts : List String} (isClean : IsClean texts) : clean texts = texts := by
  have trimmed : texts.map trim = texts :=
    (List.map_congr_left isClean.trimmed).trans (List.map_id texts)
  have filled : texts.filter (· ≠ "") = texts :=
    List.filter_eq_self.mpr fun text inside => decide_eq_true (isClean.filled text inside)
  rw [clean, trimmed, filled, textSet_of_sorted isClean.sorted]

end Text

namespace Number

open Text

theorem isFilled_repr (n : ℕ) : IsFilled (Nat.repr n) := by
  intro c inside
  rw [Nat.toList_repr] at inside
  exact (not_special (.inl (isDigit_of_mem_toDigits c inside))).1

theorem isFilled_zeros (count : ℕ) : IsFilled (zeros count) := by
  refine isFilled_ofList fun c inside => ?_
  rw [List.eq_of_mem_replicate inside]
  rfl

theorem Decimal.isFilled_positional (decimal : Decimal) {wholeMark : String}
    (mark : IsFilled wholeMark) : IsFilled (decimal.positional wholeMark) := by
  have digits := isFilled_repr decimal.digits
  unfold positional
  dsimp only
  split
  · exact (digits.append (isFilled_zeros _)).append mark
  · rw [List.splitAt_eq]
    dsimp only
    split
    · exact (IsFilled.append (by decide) (isFilled_zeros _)).append digits
    · refine (IsFilled.append (isFilled_ofList fun c inside => ?_) (by decide)).append
        (isFilled_ofList fun c inside => ?_)
      · exact digits c (List.mem_of_mem_take inside)
      · exact digits c (List.mem_of_mem_drop inside)

theorem Decimal.isFilled_scientific (decimal : Decimal) {exponentPlus : String}
    (plus : IsFilled exponentPlus) : IsFilled (decimal.scientific exponentPlus) := by
  have digits := isFilled_repr decimal.digits
  have sign : IsFilled (if 0 ≤ decimal.leading then exponentPlus else "-") := by
    split
    · exact plus
    · decide
  have exponent := sign.append (isFilled_repr decimal.leading.natAbs)
  unfold scientific
  dsimp only
  split
  · decide
  · rename_i first only
    refine (IsFilled.append (isFilled_ofList fun c inside => ?_) (by decide)).append exponent
    exact digits c (only ▸ inside)
  · rename_i first rest _ several
    refine (((isFilled_ofList fun c inside => ?_).append (by decide)).append
      (isFilled_ofList fun c inside => ?_)).append (by decide) |>.append exponent
    · exact digits c (several ▸ List.mem_cons.mpr (.inl (List.mem_singleton.mp inside)))
    · exact digits c (several ▸ List.mem_cons_of_mem _ inside)

/-- A layout that puts no blanks beside the digits puts none anywhere. -/
theorem Layout.isFilled_text (layout : Layout) (mark : IsFilled layout.wholeMark)
    (plus : IsFilled layout.exponentPlus) (x : Float) : IsFilled (layout.text x) := by
  unfold Layout.text
  dsimp only
  split
  · decide
  · have sign : IsFilled (if (Binary.ofFloat x).negative then "-" else "") := by
      split <;> decide
    split
    · refine sign.append ?_
      unfold Layout.decimal
      split
      · exact Decimal.isFilled_positional _ mark
      · exact Decimal.isFilled_scientific _ plus
    · exact sign.append (by decide)

end Number

end FormReport
