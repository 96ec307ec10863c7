import FormReport.Json.Reader
import FormReport.Json.Writer
import FormReport.Proofs.Spelling
import Mathlib.Tactic.IntervalCases

set_option autoImplicit false

/- Documents without parts are read back from their text, whatever characters a text holds. Only decimals
need not be, since they are not always read as the nearest double. -/
namespace FormReport.Json

theorem readUnit_append {chars : List Char} {unit : ℕ} (read : readUnit chars = some (unit, []))
    (rest : List Char) : readUnit (chars ++ rest) = some (unit, rest) := by
  unfold readUnit at read
  split at read
  · rename_i a b c d others
    simp only [Option.bind_eq_bind, Option.bind_eq_some_iff, Option.some.injEq,
      Prod.mk.injEq] at read
    obtain ⟨first, one, second, two, third, three, fourth, four, same, rfl⟩ := read
    simp [readUnit, one, two, three, four, same]
  · cases read

/-- Control characters given by their codes are read back. -/
theorem readEscape_unitText {code : ℕ} (control : code < 32) :
    ∃ digits, unitText code = '\\' :: 'u' :: digits ∧
      ∀ rest, readEscape ('u' :: (digits ++ rest)) = some (Char.ofNat code, rest) := by
  have spelled : ∀ code < 32, unitText code = '\\' :: 'u' :: (unitText code).drop 2 ∧
      readUnit ((unitText code).drop 2) = some (code, []) := by
    decide +kernel
  obtain ⟨shape, read⟩ := spelled code control
  refine ⟨_, shape, fun rest => ?_⟩
  have small : code < 0xD800 := by omega
  rw [readEscape, readCodePoint, readUnit_append read]
  simp [small]

theorem readString_escape {chars read rest : List Char} {c : Char}
    (escape : readEscape chars = some (c, rest)) (shorter : rest.length ≤ chars.length) :
    readString read ('\\' :: chars) = readString (c :: read) rest := by
  rw [readString]
  simp only [escape, shorter, ↓reduceIte]

/-- A character is read back as it was written. -/
theorem readString_writeChar (c : Char) (read rest : List Char) :
    readString read (writeChar c ++ rest) = readString (c :: read) rest := by
  unfold writeChar
  split
  case h_8 quote backslash _ _ _ _ _ =>
    split
    case isTrue control =>
      obtain ⟨digits, shape, escape⟩ := readEscape_unitText control
      rw [shape, List.cons_append, List.cons_append,
        readString_escape (escape rest) (by simp; omega), Char.ofNat_toNat]
    case isFalse printed =>
      rw [List.singleton_append, readString, if_neg printed]
      · exact quote
      · exact backslash
  all_goals exact readString_escape rfl (Nat.le_succ _)

theorem readString_flatMap_writeChar (chars read rest : List Char) :
    readString read (chars.flatMap writeChar ++ '"' :: rest) =
      some (String.ofList (read.reverse ++ chars), rest) := by
  induction chars generalizing read with
  | nil => simp [readString]
  | cons c others ih =>
    rw [List.flatMap_cons, List.append_assoc, readString_writeChar, ih, List.reverse_cons,
      List.append_assoc, List.singleton_append]

/-- What stands before a value or opens one with parts. -/
def nonScalars : List Char := [' ', '\t', '\n', '\r', '[', '\x7b']

theorem readValue_of_scalar {depth : ℕ} {c : Char} {chars : List Char} (scalar : c ∉ nonScalars) :
    readValue depth (c :: chars) = readScalar (c :: chars) := by
  simp only [nonScalars, List.mem_cons, not_or] at scalar
  have kept : skipBlanks (c :: chars) = c :: chars := by
    simp [skipBlanks, scalar]
  cases depth with
  | zero =>
    rw [readValue, kept]
    simp [scalar]
  | succ depth =>
    rw [readValue, kept]
    simp [scalar]

theorem read?_write_text (depth : ℕ) (value : String) :
    read? depth (write (.text value)) = some (.text value) := by
  have chars : (write (.text value)).toList = '"' :: (value.toList.flatMap writeChar ++ ['"']) := by
    simp [write, writeText]
  rw [read?, chars, readValue_of_scalar (by decide), readScalar,
    readString_flatMap_writeChar]
  simp [skipBlanks]

theorem read?_write_null (depth : ℕ) : read? depth (write .null) = some .null := by
  cases depth <;> rfl

theorem head?_toDigits_ne_zero {n : ℕ} (some : 0 < n) : (Nat.toDigits 10 n).head? ≠ .some '0' := by
  induction n using Nat.strongRecOn with
  | ind n ih =>
    by_cases small : n < 10
    · rw [Nat.toDigits_of_lt_base small]
      interval_cases n <;> decide
    · rw [Nat.toDigits_of_base_le (by decide) (by omega),
        List.head?_append_of_ne_nil _ Nat.toDigits_ne_nil]
      exact ih (n / 10) (by omega) (by omega)

/-- The digits of a whole number are read as that number, with either sign. -/
theorem readNumber_toDigits {negative : Bool} {n : ℕ}
    (fits : if negative then 0 < n ∧ n ≤ 1 <<< 63 else n < 1 <<< 64) :
    readNumber ((if negative then ['-'] else []) ++ Nat.toDigits 10 n) =
      some (.integer (if negative then -n else n), []) := by
  have proper : ¬ ((Nat.toDigits 10 n).isEmpty ∨
      ((Nat.toDigits 10 n).head? = some '0' ∧ 1 < (Nat.toDigits 10 n).length)) := by
    rintro (none | ⟨zero, long⟩)
    · exact Nat.toDigits_ne_nil (List.isEmpty_iff.mp none)
    · rcases Nat.eq_zero_or_pos n with rfl | some
      · exact absurd long (by decide)
      · exact head?_toDigits_ne_zero some zero
  have valued : numberValue? negative (Nat.toDigits 10 n) none none =
      some (.integer (if negative then -n else n)) := by
    rw [numberValue?, Number.digitsValue_toDigits]
    exact if_pos ⟨rfl, rfl, fits⟩
  unfold readNumber
  cases negative with
  | true =>
    simp only [↓reduceIte, List.singleton_append,
      Number.spanDigits_eq Number.isDigit_of_mem_toDigits, if_neg proper]
    simp [Number.readExponent?, valued]
  | false =>
    simp only [Bool.false_eq_true, ↓reduceIte, List.nil_append]
    split
    · rename_i signed
      have digit := Number.isDigit_of_mem_toDigits '-' (signed ▸ List.mem_cons_self)
      cases digit
    · simp only [Number.spanDigits_eq Number.isDigit_of_mem_toDigits, if_neg proper]
      simp [Number.readExponent?, valued]

/-- What opens a value that is no number. -/
def nonNumerals : List Char := nonScalars ++ ['"', 'n', 't', 'f']

/-- What begins like a number is read as one. -/
theorem readValue_of_numeral {depth : ℕ} {c : Char} {chars : List Char}
    (numeral : c = '-' ∨ c.isDigit = true) :
    readValue depth (c :: chars) = readNumber (c :: chars) := by
  have apart : ∀ other ∈ nonNumerals, other ≠ '-' ∧ other.isDigit = false := by
    simp [nonNumerals, nonScalars]
  have outside : c ∉ nonNumerals := by
    intro inside
    rcases numeral with minus | digit
    · exact (apart c inside).1 minus
    · rw [(apart c inside).2] at digit
      cases digit
  obtain ⟨scalar, other⟩ := not_or.mp (List.mem_append.not.mp outside)
  simp only [List.mem_cons, not_or] at other
  rw [readValue_of_scalar scalar]
  simp [readScalar, other]

theorem read?_write_integer (depth : ℕ) {value : ℤ} (small : value.natAbs < 1 <<< 63) :
    read? depth (write (.integer value)) = some (.integer value) := by
  have chars : (write (.integer value)).toList =
      (if decide (value < 0) then ['-'] else []) ++ Nat.toDigits 10 value.natAbs := by
    rw [write, integerText]
    by_cases negative : value < 0 <;> simp [negative, Nat.toList_repr]
  have fits : if decide (value < 0) then 0 < value.natAbs ∧ value.natAbs ≤ 1 <<< 63
      else value.natAbs < 1 <<< 64 := by
    have double : 1 <<< 64 = 2 * 1 <<< 63 := rfl
    by_cases negative : value < 0
    · rw [if_pos (decide_eq_true negative)]
      omega
    · rw [if_neg (by simpa using negative)]
      omega
  have number := readNumber_toDigits fits
  have signed : (if decide (value < 0) then -(value.natAbs : ℤ) else value.natAbs) = value := by
    by_cases negative : value < 0 <;> simp only [negative, decide_true, decide_false, ↓reduceIte,
      Bool.false_eq_true] <;> omega
  rw [signed, ← chars] at number
  have numerals : ∀ c ∈ (write (.integer value)).toList, c = '-' ∨ c.isDigit = true := by
    rw [chars]
    refine List.forall_mem_append.mpr ⟨?_, fun c inside => .inr (Number.isDigit_of_mem_toDigits c inside)⟩
    split <;> simp
  rw [read?]
  cases shape : (write (.integer value)).toList with
  | nil => simp [shape, Nat.toDigits_ne_nil] at chars
  | cons c rest =>
    rw [shape] at number numerals
    rw [readValue_of_numeral (numerals c List.mem_cons_self), number]
    simp [skipBlanks]

end FormReport.Json
