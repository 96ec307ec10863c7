import FormReport.Text.Blank

set_option autoImplicit false

/- Decimal numbers read from text, rounded to the nearest double. -/
namespace FormReport.Number

/-- The characters up to the first that is no digit, and the rest. -/
def spanDigits (chars : List Char) : List Char × List Char :=
  (chars.takeWhile Char.isDigit, chars.dropWhile Char.isDigit)

/-- The value of a row of digits. -/
def digitsValue (digits : List Char) : Nat :=
  digits.foldl (fun value digit => value * 10 + (digit.toNat - '0'.toNat)) 0

def infinity : Float := Float.ofBits 0x7FF0000000000000

/-- The double nearest to `digits * 10 ^ exponent`. Beyond both ends of the range of doubles the
size of the exponent is of no further account. -/
def ofDecimal (digits : Nat) (exponent : Int) : Float :=
  let leading := exponent + (Nat.repr digits).length
  if digits = 0 ∨ leading < -330 then 0
  else if 310 < leading then infinity
  else Float.ofScientific digits (exponent < 0) exponent.natAbs

/-- An exponent part: the letter, a sign if there is one, and digits. -/
def readExponent? (chars : List Char) : Option (Int × List Char) :=
  match chars with
  | letter :: rest =>
    if letter = 'e' ∨ letter = 'E' then
      let (negative, rest) := match rest with
        | '-' :: rest => (true, rest)
        | '+' :: rest => (false, rest)
        | rest => (false, rest)
      let (digits, rest) := spanDigits rest
      if digits.isEmpty then none
      else some (if negative then -(digitsValue digits : Int) else digitsValue digits, rest)
    else none
  | [] => none

/-- A number without a sign: digits with at most one point among or around them, and an exponent if
there is one. Nothing may follow. -/
def readUnsigned? (chars : List Char) : Option Float :=
  let (whole, rest) := spanDigits chars
  let (fraction, rest) := match rest with
    | '.' :: rest => spanDigits rest
    | rest => ([], rest)
  let digits := whole ++ fraction
  if digits.isEmpty then none
  else if rest.isEmpty then some (ofDecimal (digitsValue digits) (-(fraction.length : Int)))
  else
    match readExponent? rest with
    | some (exponent, []) => some (ofDecimal (digitsValue digits) (exponent - fraction.length))
    | _ => none

/-- A number with a sign if there is one. -/
def readSigned? (chars : List Char) : Option Float :=
  match chars with
  | '-' :: rest => (readUnsigned? rest).map fun x => -x
  | '+' :: rest => readUnsigned? rest
  | chars => readUnsigned? chars

/-- The number that a text stands for, blanks around it aside. Only finite numbers count. -/
def ofText? (text : String) : Option Float :=
  (readSigned? (Text.trimChars text.toList)).filter Float.isFinite

theorem ofText?_empty : ofText? "" = none := by decide +kernel

end FormReport.Number
