import FormReport.Text.Letter

set_option autoImplicit false

/- The order of texts in sorted reports: by Latin spelling without regard to case, then by code
point. What a character is spelled with is given by a table, which is a parameter of the order. -/
namespace FormReport.Text

/-- Spells characters with themselves, in lower case. Those of ASCII have no other spelling. -/
def lowerUnits (c : Char) : List Char := [c.toLower]

/-- Letters and numbers come after all other characters; within a class the code point decides. -/
def orderUnits : Char → Char → Ordering :=
  compareLex (compareOn isLetterOrNumber) (compareOn Char.toNat)

/-- The order of texts by code point. -/
def orderCodes (left right : String) : Ordering :=
  List.compareLex (compareOn Char.toNat) left.toList right.toList

/-- The order of texts by spelling; texts that are spelled alike are told apart by their code points. -/
def collate (units : Char → List Char) (left right : String) : Ordering :=
  (List.compareLex orderUnits (left.toList.flatMap units) (right.toList.flatMap units)).then
    (orderCodes left right)

end FormReport.Text
