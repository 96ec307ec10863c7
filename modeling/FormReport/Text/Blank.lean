set_option autoImplicit false

/- White space in the sense of the Unicode property, and texts without it at their ends. -/
namespace FormReport.Text

def isBlank (c : Char) : Bool :=
  let code := c.toNat
  (9 ≤ code && code ≤ 13) || code == 0x20 || code == 0x85 || code == 0xA0 || code == 0x1680 ||
    (0x2000 ≤ code && code ≤ 0x200A) || code == 0x2028 || code == 0x2029 || code == 0x202F ||
    code == 0x205F || code == 0x3000

/-- The characters between the first and the last that are not blank. -/
def trimChars (chars : List Char) : List Char :=
  ((chars.dropWhile isBlank).reverse.dropWhile isBlank).reverse

/-- The text between its first and its last character that are not blank. -/
def trim (text : String) : String := String.ofList (trimChars text.toList)

end FormReport.Text
