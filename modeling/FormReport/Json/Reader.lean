import FormReport.Json.Number

set_option autoImplicit false

/- Documents read from text. Numbers beyond the doubles, lone surrogates and raw control characters
are refused. Of two fields with one name the later counts. -/
namespace FormReport.Json

def skipBlanks (chars : List Char) : List Char :=
  chars.dropWhile fun c => c == ' ' || c == '\t' || c == '\n' || c == '\r'

/-- The rest after a word. -/
def expect (word : String) (chars : List Char) : Option (List Char) :=
  if word.toList.isPrefixOf chars then some (chars.drop word.length) else none

def hexDigit? (c : Char) : Option Nat :=
  if c.isDigit then some (c.toNat - '0'.toNat)
  else if 'a' ≤ c ∧ c ≤ 'f' then some (c.toNat - 'a'.toNat + 10)
  else if 'A' ≤ c ∧ c ≤ 'F' then some (c.toNat - 'A'.toNat + 10)
  else none

/-- Four hexadecimal digits. -/
def readUnit : List Char → Option (Nat × List Char)
  | a :: b :: c :: d :: rest => do
    let a ← hexDigit? a
    let b ← hexDigit? b
    let c ← hexDigit? c
    let d ← hexDigit? d
    some (((a * 16 + b) * 16 + c) * 16 + d, rest)
  | _ => none

/-- A character given by one unit of 16 bits, or by two that belong together. -/
def readCodePoint (chars : List Char) : Option (Char × List Char) := do
  let (unit, rest) ← readUnit chars
  if unit < 0xD800 ∨ 0xDFFF < unit then some (Char.ofNat unit, rest)
  else if 0xDBFF < unit then none
  else
    let rest ← expect "\\u" rest
    let (second, rest) ← readUnit rest
    if 0xDC00 ≤ second ∧ second ≤ 0xDFFF then
      some (Char.ofNat (0x10000 + (unit - 0xD800) * 0x400 + (second - 0xDC00)), rest)
    else none

/-- The character behind a backslash. -/
def readEscape : List Char → Option (Char × List Char)
  | '"' :: rest => some ('"', rest)
  | '\\' :: rest => some ('\\', rest)
  | '/' :: rest => some ('/', rest)
  | 'b' :: rest => some ('\x08', rest)
  | 'f' :: rest => some ('\x0c', rest)
  | 'n' :: rest => some ('\n', rest)
  | 'r' :: rest => some ('\r', rest)
  | 't' :: rest => some ('\t', rest)
  | 'u' :: rest => readCodePoint rest
  | _ => none

/-- The rest of a string after its opening quote, behind what was read of it. -/
def readString (read : List Char) (chars : List Char) : Option (String × List Char) :=
  match chars with
  | [] => none
  | '"' :: rest => some (String.ofList read.reverse, rest)
  | '\\' :: rest =>
    match readEscape rest with
    | some (c, after) => if after.length ≤ rest.length then readString (c :: read) after else none
    | none => none
  | c :: rest => if c.toNat < 32 then none else readString (c :: read) rest
termination_by chars.length

/-- A number: digits without a leading zero, then a fraction and an exponent if they are there. -/
def readNumber (chars : List Char) : Option (Json × List Char) :=
  let (negative, rest) := match chars with
    | '-' :: rest => (true, rest)
    | chars => (false, chars)
  let (whole, rest) := Number.spanDigits rest
  if whole.isEmpty ∨ (whole.head? = some '0' ∧ 1 < whole.length) then none
  else
    let fraction := match rest with
      | '.' :: rest => some (Number.spanDigits rest)
      | _ => none
    if fraction.any (·.1.isEmpty) then none
    else
      let rest := (fraction.map (·.2)).getD rest
      let startsExponent := rest.head? = some 'e' ∨ rest.head? = some 'E'
      let exponent := Number.readExponent? rest
      if startsExponent ∧ exponent.isNone then none
      else
        (numberValue? negative whole (fraction.map (·.1)) (exponent.map (·.1))).map
          (·, (exponent.map (·.2)).getD rest)

/-- A value without parts. -/
def readScalar (chars : List Char) : Option (Json × List Char) :=
  match chars with
  | '"' :: rest => (readString [] rest).map fun (value, rest) => (.text value, rest)
  | 'n' :: _ => (expect "null" chars).map (.null, ·)
  | 't' :: _ => (expect "true" chars).map (.bool true, ·)
  | 'f' :: _ => (expect "false" chars).map (.bool false, ·)
  | _ => readNumber chars

/-- Items separated by commas, up to the closing mark. An item that reads nothing ends the reading.
-/
def readItems {α : Type} (item : List Char → Option (α × List Char)) (closing : Char)
    (chars : List Char) : Option (List α × List Char) :=
  match item chars with
  | none => none
  | some (first, rest) =>
    match skipBlanks rest with
    | mark :: rest =>
      if mark = closing then some ([first], rest)
      else if mark = ',' ∧ rest.length < chars.length then
        (readItems item closing rest).map fun (others, rest) => (first :: others, rest)
      else none
    | [] => none
termination_by chars.length

/-- Items as above, or none at all. -/
def readList {α : Type} (item : List Char → Option (α × List Char)) (closing : Char)
    (chars : List Char) : Option (List α × List Char) :=
  match skipBlanks chars with
  | mark :: rest => if mark = closing then some ([], rest) else readItems item closing chars
  | [] => none

/-- A name, a colon and a value. -/
def readField (value : List Char → Option (Json × List Char)) (chars : List Char) :
    Option ((String × Json) × List Char) := do
  let rest ← expect "\"" (skipBlanks chars)
  let (key, rest) ← readString [] rest
  let rest ← expect ":" (skipBlanks rest)
  let (content, rest) ← value rest
  some ((key, content), rest)

/-- A value with at most `depth` lists and objects inside each other. -/
def readValue : Nat → List Char → Option (Json × List Char)
  | 0, chars =>
    match skipBlanks chars with
    | '[' :: _ | '\x7b' :: _ => none
    | chars => readScalar chars
  | depth + 1, chars =>
    match skipBlanks chars with
    | '[' :: rest =>
      (readList (readValue depth) ']' rest).map fun (items, rest) => (.array items, rest)
    | '\x7b' :: rest =>
      (readList (readField (readValue depth)) '\x7d' rest).map fun (fields, rest) =>
        (.object (Keyed.ofList fields), rest)
    | chars => readScalar chars

/-- The document that a whole text holds. -/
def read? (depth : Nat) (source : String) : Option Json :=
  match readValue depth source.toList with
  | some (value, rest) => if (skipBlanks rest).isEmpty then some value else none
  | none => none

end FormReport.Json
