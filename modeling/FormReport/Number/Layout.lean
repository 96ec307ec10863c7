import FormReport.Number.Shortest

set_option autoImplicit false

/- How the digits of a number are laid out. A layout is the list of decisions that one output format
makes; the digits are the same for all of them up to ties. -/
namespace FormReport.Number

structure Layout where
  /-- The least exponent of the first digit that is written positionally, if there is one. -/
  plainFrom : Option Int
  /-- The least exponent of the first digit above those, if there is one. -/
  plainBelow : Option Int
  /-- What follows the digits of a whole number. -/
  wholeMark : String
  /-- What stands before a positive exponent. -/
  exponentPlus : String
  tie : Tie

/-- Positional notation for the exponents of the first digit in the layout's window. -/
def Layout.isPlain (layout : Layout) (leading : Int) : Bool :=
  layout.plainFrom.all (· ≤ leading) && layout.plainBelow.all (leading < ·)

def zeros (count : Nat) : String := String.ofList (List.replicate count '0')

/-- The digits with the point after, inside or before them. -/
def Decimal.positional (decimal : Decimal) (wholeMark : String) : String :=
  let digits := Nat.repr decimal.digits
  if 0 ≤ decimal.exponent then digits ++ zeros decimal.exponent.toNat ++ wholeMark
  else
    let places := (-decimal.exponent).toNat
    let (whole, fraction) := digits.toList.splitAt (digits.length - places)
    if whole.isEmpty then "0." ++ zeros (places - digits.length) ++ digits
    else String.ofList whole ++ "." ++ String.ofList fraction

/-- The exponent of the first digit. -/
def Decimal.leading (decimal : Decimal) : Int :=
  decimal.exponent + (Nat.repr decimal.digits).length - 1

/-- One digit before the point and the exponent behind the digits. -/
def Decimal.scientific (decimal : Decimal) (exponentPlus : String) : String :=
  let leading := decimal.leading
  let exponent := (if 0 ≤ leading then exponentPlus else "-") ++ Nat.repr leading.natAbs
  match (Nat.repr decimal.digits).toList with
  | [] => ""
  | [first] => String.ofList [first] ++ "e" ++ exponent
  | first :: rest => String.ofList [first] ++ "." ++ String.ofList rest ++ "e" ++ exponent

def Layout.decimal (layout : Layout) (decimal : Decimal) : String :=
  if decimal.digits = 0 || layout.isPlain decimal.leading then decimal.positional layout.wholeMark
  else decimal.scientific layout.exponentPlus

/-- The text of a double. -/
def Layout.text (layout : Layout) (x : Float) : String :=
  if x.isNaN then "NaN"
  else
    let value := Binary.ofFloat x
    let sign := if value.negative then "-" else ""
    if x.isFinite then sign ++ layout.decimal (value.shortest layout.tie)
    else sign ++ "inf"

/-- Numbers in data: a fraction is always shown, and the exponent form starts at `1e+16` and below
`1e-5`. -/
def dataLayout : Layout where
  plainFrom := some (-5)
  plainBelow := some 16
  wholeMark := ".0"
  exponentPlus := "+"
  tie := .even

/-- Numbers in cells: never an exponent, and no fraction on a whole number. -/
def cellLayout : Layout where
  plainFrom := none
  plainBelow := none
  wholeMark := ""
  exponentPlus := ""
  tie := .upward

/-- Numbers in messages about expressions: a fraction is always shown, and the exponent form starts
at `1e16` and below `1e-4`. -/
def messageLayout : Layout where
  plainFrom := some (-4)
  plainBelow := some 16
  wholeMark := ".0"
  exponentPlus := ""
  tie := .upward

end FormReport.Number
