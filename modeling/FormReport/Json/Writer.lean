import FormReport.Json.Basic
import FormReport.Number.Layout

set_option autoImplicit false

/- Documents written without blanks. -/
namespace FormReport.Json

/-- A unit of 16 bits in hexadecimal. -/
def unitText (code : Nat) : List Char :=
  let digits := Nat.toDigits 16 code
  ['\\', 'u'] ++ List.replicate (4 - digits.length) '0' ++ digits

def writeChar (c : Char) : List Char :=
  match c with
  | '"' => ['\\', '"']
  | '\\' => ['\\', '\\']
  | '\x08' => ['\\', 'b']
  | '\x0c' => ['\\', 'f']
  | '\n' => ['\\', 'n']
  | '\r' => ['\\', 'r']
  | '\t' => ['\\', 't']
  | c => if c.toNat < 32 then unitText c.toNat else [c]

def writeText (value : String) : String :=
  String.ofList (['"'] ++ value.toList.flatMap writeChar ++ ['"'])

/-- A number as text. -/
def integerText (value : Int) : String :=
  if value < 0 then "-" ++ Nat.repr value.natAbs else Nat.repr value.natAbs

mutual

/-- The text of a document. Numbers that are not finite have none and are written as null. -/
def write : Json → String
  | null => "null"
  | bool value => if value then "true" else "false"
  | integer value => integerText value
  | decimal value => if value.isFinite then Number.dataLayout.text value else "null"
  | text value => writeText value
  | array items => "[" ++ String.intercalate "," (writeItems items) ++ "]"
  | object fields => "\x7b" ++ String.intercalate "," (writeFields fields) ++ "\x7d"

def writeItems : List Json → List String
  | [] => []
  | item :: rest => write item :: writeItems rest

def writeFields : List (String × Json) → List String
  | [] => []
  | (key, value) :: rest => (writeText key ++ ":" ++ write value) :: writeFields rest

end

end FormReport.Json
