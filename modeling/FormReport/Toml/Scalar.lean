import FormReport.Json.Basic
import FormReport.Json.Reader

set_option autoImplicit false

/- The plain values of a settings file: strings, numbers, truth values, dates and times. -/
namespace FormReport.Toml

def isSpace (c : Char) : Bool := c == ' ' || c == '\t'

def skipSpaces (chars : List Char) : List Char := chars.dropWhile isSpace

/-- Whether a character may stand in a string or a comment as it is. -/
def isPlain (c : Char) : Bool := c == '\t' || (32 ≤ c.toNat && c.toNat != 127)

/-- The rest behind a line end. -/
def newline? : List Char → Option (List Char)
  | '\n' :: rest => some rest
  | '\r' :: '\n' :: rest => some rest
  | _ => none

/-- The value of exactly `count` hexadecimal digits. -/
def readHex (count value : Nat) (chars : List Char) : Option (Nat × List Char) :=
  match count, chars with
  | 0, rest => some (value, rest)
  | _ + 1, [] => none
  | count + 1, c :: rest =>
    match Json.hexDigit? c with
    | some digit => readHex count (value * 16 + digit) rest
    | none => none

/-- A character given by its code point. -/
def readCodePoint (digits : Nat) (chars : List Char) : Option (Char × List Char) :=
  match readHex digits 0 chars with
  | some (code, rest) => if code.isValidChar then some (Char.ofNat code, rest) else none
  | none => none

/-- The character behind a backslash. -/
def readEscape : List Char → Option (Char × List Char)
  | 'b' :: rest => some ('\x08', rest)
  | 't' :: rest => some ('\t', rest)
  | 'n' :: rest => some ('\n', rest)
  | 'f' :: rest => some ('\x0c', rest)
  | 'r' :: rest => some ('\r', rest)
  | '"' :: rest => some ('"', rest)
  | '\\' :: rest => some ('\\', rest)
  | 'u' :: rest => readCodePoint 4 rest
  | 'U' :: rest => readCodePoint 8 rest
  | _ => none

/-- The rest of a string of one line, behind what was read of it. -/
def readBasic (read chars : List Char) : Option (String × List Char) :=
  match chars with
  | [] => none
  | '"' :: rest => some (String.ofList read.reverse, rest)
  | '\\' :: rest =>
    match readEscape rest with
    | some (c, after) => if after.length ≤ rest.length then readBasic (c :: read) after else none
    | none => none
  | c :: rest => if isPlain c then readBasic (c :: read) rest else none
termination_by chars.length

/-- The rest of a string of one line without escapes. -/
def readLiteral (read : List Char) : List Char → Option (String × List Char)
  | [] => none
  | '\'' :: rest => some (String.ofList read.reverse, rest)
  | c :: rest => if isPlain c then readLiteral (c :: read) rest else none

/-- The text behind blanks and line ends. -/
def skipBlankLines (chars : List Char) : List Char :=
  match newline? (skipSpaces chars) with
  | some rest => if rest.length < chars.length then skipBlankLines rest else rest
  | none => skipSpaces chars
termination_by chars.length

/-- What follows a backslash at the end of a line: everything up to the next text is skipped. -/
def skipFold? (chars : List Char) : Option (List Char) :=
  (newline? (skipSpaces chars)).map skipBlankLines

/-- The end of a string of several lines: three quotes, of up to five the last three. -/
def closing? (quote : Char) (chars : List Char) : Option (List Char × List Char) :=
  let quotes := (chars.takeWhile (· == quote)).length
  if quotes < 3 then none
  else some (List.replicate (min quotes 5 - 3) quote, chars.drop (min quotes 5))

/-- The rest of a string of several lines. -/
def readLines (quote : Char) (escapes : Bool) (read chars : List Char) :
    Option (String × List Char) :=
  match chars with
  | [] => none
  | c :: rest =>
    match closing? quote chars with
    | some (last, rest) => some (String.ofList (read.reverse ++ last), rest)
    | none =>
      match newline? chars with
      | some after =>
        if after.length ≤ rest.length then readLines quote escapes ('\n' :: read) after else none
      | none =>
        if escapes && c == '\\' then
          match skipFold? rest with
          | some after =>
            if after.length ≤ rest.length then readLines quote escapes read after else none
          | none =>
            match readEscape rest with
            | some (c, after) =>
              if after.length ≤ rest.length then readLines quote escapes (c :: read) after else none
            | none => none
        else if isPlain c then readLines quote escapes (c :: read) rest
        else none
termination_by chars.length

/-- A line end directly behind the opening quotes does not belong to the string. -/
def dropFirstNewline (chars : List Char) : List Char := (newline? chars).getD chars

def readString : List Char → Option (String × List Char)
  | '"' :: '"' :: '"' :: rest => readLines '"' true [] (dropFirstNewline rest)
  | '\'' :: '\'' :: '\'' :: rest => readLines '\'' false [] (dropFirstNewline rest)
  | '"' :: rest => readBasic [] rest
  | '\'' :: rest => readLiteral [] rest
  | _ => none

/-- Digits, with single underscores between them. -/
def readDigits (isDigit : Char → Bool) : List Char → List Char × List Char
  | c :: '_' :: d :: rest =>
    if isDigit c then
      if isDigit d then
        let (digits, rest) := readDigits isDigit (d :: rest)
        (c :: digits, rest)
      else ([c], '_' :: d :: rest)
    else ([], c :: '_' :: d :: rest)
  | c :: rest =>
    if isDigit c then
      let (digits, rest) := readDigits isDigit rest
      (c :: digits, rest)
    else ([], c :: rest)
  | [] => ([], [])

def spanSign : List Char → Bool × List Char
  | '-' :: rest => (true, rest)
  | '+' :: rest => (false, rest)
  | chars => (false, chars)

def signed (negative : Bool) (value : Nat) : Int := if negative then -value else value

/-- An integer that fits in 64 bits. -/
def integer? (value : Int) : Option Json :=
  if -(1 <<< 63 : Nat) ≤ value ∧ value < (1 <<< 63 : Nat) then some (.integer value) else none

/-- An integer in another base than ten. -/
def readBased (base : Nat) (isDigit : Char → Bool) (chars : List Char) :
    Option (Json × List Char) :=
  let (digits, rest) := readDigits isDigit chars
  if digits.isEmpty then none
  else
    let value := digits.foldl (fun value c => value * base + (Json.hexDigit? c).getD 0) 0
    (integer? value).map (·, rest)

/-- The fraction of a number, if it has one. -/
def readFraction (chars : List Char) : Option (Option (List Char) × List Char) :=
  match chars with
  | '.' :: rest =>
    let (digits, rest) := readDigits Char.isDigit rest
    if digits.isEmpty then none else some (some digits, rest)
  | chars => some (none, chars)

/-- The exponent of a number, if it has one. -/
def readExponent (chars : List Char) : Option (Option Int × List Char) :=
  match chars with
  | [] => some (none, [])
  | c :: rest =>
    if c == 'e' || c == 'E' then
      let (negative, rest) := spanSign rest
      let (digits, rest) := readDigits Char.isDigit rest
      if digits.isEmpty then none
      else some (some (signed negative (Number.digitsValue digits)), rest)
    else some (none, c :: rest)

/-- A number in base ten, without a zero in front. Only above the doubles a number is refused; below
them it is the negative infinity. -/
def readDecimal (chars : List Char) : Option (Json × List Char) :=
  let (negative, rest) := spanSign chars
  match rest with
  | 'i' :: 'n' :: 'f' :: rest =>
    some (.decimal (if negative then -Number.infinity else Number.infinity), rest)
  | 'n' :: 'a' :: 'n' :: rest => some (.decimal (0 / 0), rest)
  | rest =>
    let (whole, rest) := match rest with
      | '0' :: rest => (['0'], rest)
      | rest => readDigits Char.isDigit rest
    if whole.isEmpty then none
    else do
      let (fraction, rest) ← readFraction rest
      let (exponent, rest) ← readExponent rest
      if fraction.isNone && exponent.isNone then
        (integer? (signed negative (Number.digitsValue whole))).map (·, rest)
      else
        let places := fraction.getD []
        let magnitude := Number.ofDecimal (Number.digitsValue (whole ++ places))
          (exponent.getD 0 - places.length)
        let value := if negative then -magnitude else magnitude
        if value == Number.infinity then none else some (.decimal value, rest)

def readNumber (chars : List Char) : Option (Json × List Char) :=
  match chars with
  | '0' :: 'x' :: rest => readBased 16 (fun c => (Json.hexDigit? c).isSome) rest
  | '0' :: 'o' :: rest => readBased 8 (fun c => '0' ≤ c && c ≤ '7') rest
  | '0' :: 'b' :: rest => readBased 2 (fun c => c == '0' || c == '1') rest
  | chars => readDecimal chars

/-- A number of exactly `count` digits within bounds. -/
def readField (count low high : Nat) (chars : List Char) : Option (Nat × List Char) :=
  let digits := chars.take count
  let value := Number.digitsValue digits
  if digits.length = count ∧ digits.all Char.isDigit ∧ low ≤ value ∧ value ≤ high then
    some (value, chars.drop count)
  else none

def daysIn (year month : Nat) : Nat :=
  if month = 2 then
    if year % 4 = 0 ∧ (year % 100 ≠ 0 ∨ year % 400 = 0) then 29 else 28
  else if month = 4 ∨ month = 6 ∨ month = 9 ∨ month = 11 then 30
  else 31

def readDate (chars : List Char) : Option (List Char) := do
  let (year, rest) ← readField 4 0 9999 chars
  let (month, rest) ← readField 2 1 12 (← Json.expect "-" rest)
  let (_, rest) ← readField 2 1 (daysIn year month) (← Json.expect "-" rest)
  some rest

/-- A time of day; a fraction of a second needs at least one digit. -/
def readTime (chars : List Char) : Option (List Char) := do
  let (_, rest) ← readField 2 0 23 chars
  let (_, rest) ← readField 2 0 59 (← Json.expect ":" rest)
  let (_, rest) ← readField 2 0 60 (← Json.expect ":" rest)
  match rest with
  | '.' :: c :: rest =>
    if c.isDigit then some (rest.dropWhile Char.isDigit) else some ('.' :: c :: rest)
  | rest => some rest

/-- The offset from universal time, if there is one. -/
def readOffset (chars : List Char) : Option (List Char) :=
  match chars with
  | 'Z' :: rest => some rest
  | 'z' :: rest => some rest
  | c :: rest =>
    if c == '+' || c == '-' then do
      let (_, rest) ← readField 2 0 23 rest
      let (_, rest) ← readField 2 0 59 (← Json.expect ":" rest)
      some rest
    else some (c :: rest)
  | [] => some []

/-- A date, a time of day, or both. A date may stand alone. -/
def readMoment (chars : List Char) : Option (List Char) :=
  match readDate chars with
  | none => readTime chars
  | some rest =>
    match rest with
    | c :: after =>
      if c == 'T' || c == 't' || c == ' ' then
        match readTime after with
        | some rest => readOffset rest
        | none => if c == ' ' then some rest else none
      else some rest
    | [] => some rest

/-- A value without parts. The content of dates and times is of no further account. -/
def readScalar (chars : List Char) : Option (Json × List Char) :=
  match chars with
  | [] => none
  | c :: _ =>
    if c == '"' || c == '\'' then (readString chars).map fun (value, rest) => (.text value, rest)
    else if c == 't' then (Json.expect "true" chars).map (.bool true, ·)
    else if c == 'f' then (Json.expect "false" chars).map (.bool false, ·)
    else
      match readMoment chars with
      | some rest => some (.object [("moment", .null)], rest)
      | none => readNumber chars

end FormReport.Toml
