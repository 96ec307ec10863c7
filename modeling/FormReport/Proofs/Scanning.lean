import FormReport.Proofs.Grammar
import FormReport.Proofs.Spelling
import Mathlib.Tactic.IntervalCases

set_option autoImplicit false

/- Tokens as characters. Which characters a token may be written with is stated without the scanner; the
scanner reads them as the token and goes on behind them, whatever follows a name or a mark and whatever
follows a number without going on with it. -/
namespace FormReport.Expression.Token

open Number (spanDigits readExponent? readUnsigned?)

/-- Whether characters do not go on with a number that stands before them. -/
def EndsNumber (chars : List Char) : Prop :=
  ∀ c ∈ chars.head?, c.isDigit = false ∧ c ≠ '.' ∧ c ≠ 'e' ∧ c ≠ 'E'

/-- What is read as an exponent is its letter, a sign or none, and digits up to the end. -/
theorem parts_of_readExponent? {chars : List Char} {exponent : ℤ}
    (read : readExponent? chars = some (exponent, [])) :
    ∃ letter rest, chars = letter :: rest ∧ (letter = 'e' ∨ letter = 'E') ∧
      (spanDigits (spanSign rest).2).1 ≠ [] ∧ (spanDigits (spanSign rest).2).2 = [] := by
  cases chars with
  | nil => cases read
  | cons letter rest =>
    unfold readExponent? at read
    dsimp only at read
    split at read
    · rename_i known
      refine ⟨letter, rest, rfl, known, ?_⟩
      split at read <;>
        simp only [Option.ite_none_left_eq_some, Option.some.injEq, Prod.mk.injEq,
          List.isEmpty_iff] at read
      · exact ⟨read.1, read.2.2⟩
      · exact ⟨read.1, read.2.2⟩
      · rename_i minus plus
        rw [spanSign]
        · exact ⟨read.1, read.2.2⟩
        · exact plus
        · exact minus
    · cases read

/-- What is read as a number without a sign has digits before a point or a point behind them, and nothing
or an exponent after its digits. -/
theorem parts_of_readUnsigned? {raw : List Char} {value : Float}
    (read : readUnsigned? raw = some value) :
    ((spanDigits raw).1 = [] → (spanDigits raw).2.head? = some '.') ∧
      ((spanFraction (spanDigits raw).2).2 = [] ∨
        ∃ exponent, readExponent? (spanFraction (spanDigits raw).2).2 = some (exponent, [])) := by
  have ending {digits rest : List Char} {plain : Float} {scaled : Option Float}
      (read : (if digits.isEmpty = true then none else if rest.isEmpty = true then some plain
        else scaled) = some value)
      (exponential : scaled = some value → ∃ exponent, readExponent? rest = some (exponent, [])) :
      digits ≠ [] ∧ (rest = [] ∨ ∃ exponent, readExponent? rest = some (exponent, [])) := by
    simp only [Option.ite_none_left_eq_some, List.isEmpty_iff] at read
    obtain ⟨some, read⟩ := read
    refine ⟨some, ?_⟩
    split at read
    · rename_i none
      exact .inl none
    · exact .inr (exponential read)
  unfold readUnsigned? at read
  dsimp only at read
  split at read
  · rename_i fraction found
    obtain ⟨_, read⟩ := ending read fun read => by
      split at read
      · exact ⟨_, ‹_›⟩
      · cases read
    rw [found]
    exact ⟨fun _ => rfl, read⟩
  · rename_i pointless
    obtain ⟨some, read⟩ := ending read fun read => by
      split at read
      · exact ⟨_, ‹_›⟩
      · cases read
    have kept : spanFraction (spanDigits raw).2 = ([], (spanDigits raw).2) := by
      rw [spanFraction]
      exact pointless
    rw [kept]
    exact ⟨fun none => absurd none (by simpa using some), read⟩

theorem append_spanDigits (chars : List Char) : (spanDigits chars).1 ++ (spanDigits chars).2 = chars :=
  List.takeWhile_append_dropWhile

theorem append_spanFraction (chars : List Char) :
    (spanFraction chars).1 ++ (spanFraction chars).2 = chars := by
  unfold spanFraction
  split
  · exact congrArg ('.' :: ·) (append_spanDigits _)
  · rfl

theorem append_spanSign (chars : List Char) : (spanSign chars).1 ++ (spanSign chars).2 = chars := by
  unfold spanSign
  split <;> rfl

/-- What is read as a number without a sign begins with a digit or a point. -/
theorem numeral_of_readUnsigned? {raw : List Char} {value : Float}
    (read : readUnsigned? raw = some value) :
    ∃ c chars, raw = c :: chars ∧ (c.isDigit = true ∨ c = '.') := by
  have point := (parts_of_readUnsigned? read).1
  have lossless := append_spanDigits raw
  cases first : (spanDigits raw).1 with
  | nil =>
    rw [first, List.nil_append] at lossless
    rw [lossless] at point
    obtain ⟨rest, same⟩ := List.head?_eq_some_iff.mp (point first)
    exact ⟨'.', rest, same, .inr rfl⟩
  | cons c digits =>
    rw [first, List.cons_append] at lossless
    have inside : c ∈ raw.takeWhile Char.isDigit := by
      change c ∈ (spanDigits raw).1
      rw [first]
      exact List.mem_cons_self
    exact ⟨c, _, lossless.symm, .inl (List.mem_takeWhile_imp inside)⟩

theorem spanSign_append {chars more : List Char} (some : chars ≠ []) :
    spanSign (chars ++ more) = ((spanSign chars).1, (spanSign chars).2 ++ more) := by
  cases chars with
  | nil => exact absurd rfl some
  | cons c rest =>
    by_cases plus : c = '+'
    · rw [plus]
      rfl
    · by_cases minus : c = '-'
      · rw [minus]
        rfl
      · simp [spanSign, plus, minus]

section

variable {more : List Char} (ends : EndsNumber more)

include ends

theorem spanDigits_append (chars : List Char) :
    spanDigits (chars ++ more) = ((spanDigits chars).1, (spanDigits chars).2 ++ more) := by
  induction chars with
  | nil =>
    cases more with
    | nil => rfl
    | cons c rest => simp [spanDigits, (ends c rfl).1]
  | cons c rest ih =>
    simp only [spanDigits, Prod.mk.injEq] at ih
    cases digit : c.isDigit <;> simp [spanDigits, digit, ih]

theorem spanFraction_append (chars : List Char) :
    spanFraction (chars ++ more) = ((spanFraction chars).1, (spanFraction chars).2 ++ more) := by
  cases chars with
  | nil =>
    cases more with
    | nil => rfl
    | cons c rest => simp [spanFraction, (ends c rfl).2.1]
  | cons c rest =>
    by_cases point : c = '.'
    · subst point
      simp [spanFraction, spanDigits_append ends]
    · simp [spanFraction, point]

theorem spanExponent_nil : spanExponent more = ([], more) := by
  cases more with
  | nil => rfl
  | cons c rest =>
    obtain ⟨_, _, small, great⟩ := ends c rfl
    rw [spanExponent, if_neg (by simp [small, great])]

/-- A sign belongs to the number only behind the letter of its exponent, and digits follow it there. -/
theorem spanExponent_append {chars : List Char} {exponent : ℤ}
    (read : readExponent? chars = some (exponent, [])) : spanExponent (chars ++ more) = (chars, more) := by
  obtain ⟨letter, rest, rfl, known, some, all⟩ := parts_of_readExponent? read
  have behind : rest ≠ [] := by
    rintro rfl
    exact some rfl
  have digits := append_spanDigits (spanSign rest).2
  rw [all, List.append_nil] at digits
  rw [List.cons_append, spanExponent, if_pos known, spanSign_append behind]
  dsimp only
  rw [spanDigits_append ends, all, List.cons_append, digits, append_spanSign, List.nil_append]

/-- A literal is spanned up to its end where it is not gone on with. -/
theorem spanNumber_append {raw : List Char} {value : Float} (read : readUnsigned? raw = some value) :
    spanNumber (raw ++ more) = (raw, more) := by
  have behind := (parts_of_readUnsigned? read).2
  have exponent : spanExponent ((spanFraction (spanDigits raw).2).2 ++ more) =
      ((spanFraction (spanDigits raw).2).2, more) := by
    rcases behind with none | ⟨exponent, read⟩
    · rw [none]
      exact spanExponent_nil ends
    · exact spanExponent_append ends read
  rw [spanNumber, spanDigits_append ends]
  dsimp only
  rw [spanFraction_append ends]
  dsimp only
  rw [exponent, List.append_assoc, append_spanFraction, append_spanDigits]

end

/-- The characters that a literal begins with. -/
def numerals : List Char := ['0', '1', '2', '3', '4', '5', '6', '7', '8', '9', '.']

theorem mem_numerals {c : Char} (numeral : c.isDigit = true ∨ c = '.') : c ∈ numerals := by
  rcases numeral with digit | rfl
  · have code : 48 ≤ c.toNat ∧ c.toNat ≤ 57 := by
      simpa [Char.isDigit, UInt32.le_iff_toNat_le] using digit
    obtain ⟨least, most⟩ := code
    rw [← Char.ofNat_toNat c]
    interval_cases c.toNat <;> decide
  · decide

theorem scan_numeral {c : Char} (numeral : c.isDigit = true ∨ c = '.') (rest : List Char) :
    scan c rest = (ofNumber (spanNumber (c :: rest)).1, (spanNumber (c :: rest)).2) := by
  have others : (numerals.all fun c => (ofMark? c).isNone && c != '[' && !startsName c) = true := by
    decide +kernel
  have other := List.all_eq_true.mp others c (mem_numerals numeral)
  simp only [Bool.and_eq_true, Option.isNone_iff_eq_none, bne_iff_ne, Bool.not_eq_true'] at other
  obtain ⟨⟨unmarked, unbracketed⟩, unnamed⟩ := other
  have starts : (c.isDigit || c == '.') = true := by simpa using numeral
  unfold scan
  simp only [unmarked, unbracketed, unnamed, starts, ↓reduceIte, Bool.false_eq_true]

/-- Whether a name can stand in brackets: it is not empty, does not close them, and has no blanks around
it. -/
structure IsBracketable (text : String) : Prop where
  nonempty : text ≠ ""
  unclosed : ']' ∉ text.toList
  starts : text.toList.head?.any Text.isBlank = false
  ends : text.toList.getLast?.any Text.isBlank = false

instance (text : String) : Decidable (IsBracketable text) :=
  decidable_of_iff (text ≠ "" ∧ ']' ∉ text.toList ∧ text.toList.head?.any Text.isBlank = false ∧
      text.toList.getLast?.any Text.isBlank = false)
    ⟨fun ⟨nonempty, unclosed, starts, ends⟩ => ⟨nonempty, unclosed, starts, ends⟩,
      fun ⟨nonempty, unclosed, starts, ends⟩ => ⟨nonempty, unclosed, starts, ends⟩⟩

theorem IsBracketable.trimChars_eq {text : String} (bracketable : IsBracketable text) :
    Text.trimChars text.toList = text.toList := by
  have keep {chars : List Char} (starts : chars.head?.any Text.isBlank = false) :
      chars.dropWhile Text.isBlank = chars := by
    cases chars with
    | nil => rfl
    | cons c rest => exact List.dropWhile_cons_of_neg (Bool.eq_false_iff.mp starts)
  have ends : text.toList.reverse.head?.any Text.isBlank = false := by
    rw [List.head?_reverse]
    exact bracketable.ends
  rw [Text.trimChars, keep bracketable.starts, keep ends, List.reverse_reverse]

theorem scan_bracketed {text : String} (bracketable : IsBracketable text) (rest : List Char) :
    scan '[' (text.toList ++ ']' :: rest) = (.name text, rest) := by
  have inside : ∀ c ∈ text.toList, (c != ']') = true := by
    intro c member
    rw [bne_iff_ne]
    rintro rfl
    exact bracketable.unclosed member
  have named : ofBracketed text.toList = .name text := by
    rw [ofBracketed, bracketable.trimChars_eq]
    split
    · rename_i none
      exact absurd (String.toList_eq_nil_iff.mp none) bracketable.nonempty
    · rw [String.ofList_toList]
  unfold scan
  simp only [ofMark?, ↓reduceIte, List.dropWhile_append_of_pos inside,
    List.takeWhile_append_of_pos inside]
  simp [named]

/-- The characters that a token is written with: a name in brackets, a number by an unsigned decimal
literal, and a mark in either of its forms. -/
inductive Spelled : Token → List Char → Prop where
  | name (text : String) : Spelled (.name text) ('[' :: text.toList ++ [']'])
  | number {raw : List Char} {value : Float} (read : readUnsigned? raw = some value) :
      Spelled (.number value) raw
  | plus : Spelled .plus ['+']
  | minus : Spelled .minus ['-']
  | star {c : Char} (form : c = '*' ∨ c = '×') : Spelled .star [c]
  | slash {c : Char} (form : c = '/' ∨ c = '÷') : Spelled .slash [c]
  | opening {c : Char} (form : c = '(' ∨ c = '（') : Spelled .opening [c]
  | closing {c : Char} (form : c = ')' ∨ c = '）') : Spelled .closing [c]

/-- Whether a token can be written: its name in brackets, its number by a literal. -/
def IsWritable : Token → Prop
  | name text => IsBracketable text
  | number value => ∃ raw, readUnsigned? raw = some value
  | invalid _ => False
  | _ => True

theorem IsWritable.exists_spelled {token : Token} (writable : token.IsWritable) :
    ∃ chars, Spelled token chars := by
  cases token with
  | name text => exact ⟨_, .name text⟩
  | number value =>
    obtain ⟨raw, read⟩ := writable
    exact ⟨raw, .number read⟩
  | plus => exact ⟨_, .plus⟩
  | minus => exact ⟨_, .minus⟩
  | star => exact ⟨_, .star (.inl rfl)⟩
  | slash => exact ⟨_, .slash (.inl rfl)⟩
  | opening => exact ⟨_, .opening (.inl rfl)⟩
  | closing => exact ⟨_, .closing (.inl rfl)⟩
  | invalid fault => exact writable.elim

def IsNumber : Token → Prop
  | number _ => True
  | _ => False

/-- A token that is written is read, with no more than its characters; a number where it is not gone on
with. -/
theorem Spelled.scan_eq {token : Token} {chars : List Char} (spelled : Spelled token chars)
    (writable : token.IsWritable) {more : List Char} (ends : token.IsNumber → EndsNumber more) :
    ∃ c rest, chars = c :: rest ∧ Text.isBlank c = false ∧ scan c (rest ++ more) = (token, more) := by
  cases spelled with
  | name text =>
    refine ⟨'[', text.toList ++ [']'], rfl, by decide, ?_⟩
    rw [List.append_assoc]
    exact scan_bracketed writable more
  | number read =>
    obtain ⟨c, rest, rfl, numeral⟩ := numeral_of_readUnsigned? read
    refine ⟨c, rest, rfl, (Number.not_special numeral).1, ?_⟩
    rw [scan_numeral numeral, ← List.cons_append, spanNumber_append (ends trivial) read, ofNumber, read]
  | plus => exact ⟨'+', [], rfl, by decide, rfl⟩
  | minus => exact ⟨'-', [], rfl, by decide, rfl⟩
  | star form => rcases form with rfl | rfl <;> exact ⟨_, [], rfl, by decide, rfl⟩
  | slash form => rcases form with rfl | rfl <;> exact ⟨_, [], rfl, by decide, rfl⟩
  | opening form => rcases form with rfl | rfl <;> exact ⟨_, [], rfl, by decide, rfl⟩
  | closing form => rcases form with rfl | rfl <;> exact ⟨_, [], rfl, by decide, rfl⟩

end FormReport.Expression.Token
