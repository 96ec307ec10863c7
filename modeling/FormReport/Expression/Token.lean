import FormReport.Number.Layout
import FormReport.Number.Reader
import FormReport.Text.Blank
import FormReport.Text.Letter
import FormReport.Text.Quoted

set_option autoImplicit false

/- The tokens of an expression. Reading never fails: a place that holds no token becomes an invalid
one, and nothing is read behind it. -/
namespace FormReport.Expression

/-- What is wrong with a piece of text that is no token. -/
inductive LexicalFault where
  | invalidNumber (raw : String)
  | unexpectedCharacter (c : Char)
  | unterminatedName
  | emptyName
  deriving DecidableEq

def LexicalFault.message : LexicalFault → String
  | invalidNumber raw => s!"invalid number `{raw}`"
  | unexpectedCharacter c => s!"unexpected character `{c}`"
  | unterminatedName => "unterminated `[`"
  | emptyName => "empty bracketed field name"

inductive Token where
  | name (text : String)
  | number (value : Float)
  | plus
  | minus
  | star
  | slash
  | opening
  | closing
  | invalid (fault : LexicalFault)
  deriving DecidableEq

/-- How a token is named in messages. -/
def Token.text : Token → String
  | name text => "Ident(" ++ Text.quoted text ++ ")"
  | number value => "Number(" ++ Number.messageLayout.text value ++ ")"
  | plus => "Plus"
  | minus => "Minus"
  | star => "Star"
  | slash => "Slash"
  | opening => "LParen"
  | closing => "RParen"
  | invalid fault => fault.message

namespace Token

def startsName (c : Char) : Bool := Text.isLetter c || c == '_'

def continuesName (c : Char) : Bool := Text.isLetterOrNumber c || c == '_'

/-- The tokens of one character, with their alternative forms. -/
def ofMark? (c : Char) : Option Token :=
  match c with
  | '+' => some plus
  | '-' => some minus
  | '*' => some star
  | '×' => some star
  | '/' => some slash
  | '÷' => some slash
  | '(' => some opening
  | '（' => some opening
  | ')' => some closing
  | '）' => some closing
  | _ => none

/-- The point and the digits behind it, if there is a point. -/
def spanFraction : List Char → List Char × List Char
  | '.' :: rest => ('.' :: (Number.spanDigits rest).1, (Number.spanDigits rest).2)
  | chars => ([], chars)

/-- The sign of an exponent, if there is one. -/
def spanSign : List Char → List Char × List Char
  | '+' :: rest => (['+'], rest)
  | '-' :: rest => (['-'], rest)
  | chars => ([], chars)

/-- The letter, the sign and the digits of an exponent, if there is its letter. -/
def spanExponent : List Char → List Char × List Char
  | [] => ([], [])
  | c :: rest =>
    if c = 'e' ∨ c = 'E' then
      let (sign, rest) := spanSign rest
      let (digits, rest) := Number.spanDigits rest
      (c :: sign ++ digits, rest)
    else ([], c :: rest)

/-- The longest piece that is made like a number. It may still be none, as a point alone. -/
def spanNumber (chars : List Char) : List Char × List Char :=
  let (whole, rest) := Number.spanDigits chars
  let (fraction, rest) := spanFraction rest
  let (exponent, rest) := spanExponent rest
  (whole ++ fraction ++ exponent, rest)

/-- The number that a piece stands for. A literal beyond the doubles is infinite. -/
def ofNumber (raw : List Char) : Token :=
  match Number.readUnsigned? raw with
  | some value => number value
  | none => invalid (.invalidNumber (String.ofList raw))

/-- The name between brackets, blanks around it aside. -/
def ofBracketed (inside : List Char) : Token :=
  match Text.trimChars inside with
  | [] => invalid .emptyName
  | chars => name (String.ofList chars)

/-- The token that starts with `c`, and what follows it. -/
def scan (c : Char) (rest : List Char) : Token × List Char :=
  match ofMark? c with
  | some token => (token, rest)
  | none =>
    if c = '[' then
      match rest.dropWhile (· != ']') with
      | [] => (invalid .unterminatedName, [])
      | _ :: after => (ofBracketed (rest.takeWhile (· != ']')), after)
    else if startsName c then
      (name (String.ofList (c :: rest.takeWhile continuesName)), rest.dropWhile continuesName)
    else if c.isDigit || c == '.' then
      (ofNumber (spanNumber (c :: rest)).1, (spanNumber (c :: rest)).2)
    else (invalid (.unexpectedCharacter c), rest)

theorem length_spanDigits (chars : List Char) :
    (Number.spanDigits chars).2.length ≤ chars.length :=
  (List.dropWhile_sublist _).length_le

theorem length_spanFraction (chars : List Char) : (spanFraction chars).2.length ≤ chars.length := by
  unfold spanFraction
  split
  · have shorter := length_spanDigits ‹List Char›
    simp only [List.length_cons]
    omega
  · exact Nat.le_refl _

theorem length_spanSign (chars : List Char) : (spanSign chars).2.length ≤ chars.length := by
  unfold spanSign
  split <;> simp

theorem length_spanExponent (chars : List Char) : (spanExponent chars).2.length ≤ chars.length := by
  cases chars with
  | nil => simp [spanExponent]
  | cons c rest =>
    have sign := length_spanSign rest
    have digits := length_spanDigits (spanSign rest).2
    by_cases letter : c = 'e' ∨ c = 'E'
    · simp only [spanExponent, letter, ↓reduceIte, List.length_cons]
      omega
    · simp [spanExponent, letter]

theorem length_spanNumber (c : Char) (rest : List Char) (starts : c.isDigit || c == '.') :
    (spanNumber (c :: rest)).2.length ≤ rest.length := by
  have exponent := length_spanExponent (spanFraction (Number.spanDigits (c :: rest)).2).2
  have fraction := length_spanFraction (Number.spanDigits (c :: rest)).2
  simp only [spanNumber]
  by_cases digit : c.isDigit
  · have whole : (Number.spanDigits (c :: rest)).2.length ≤ rest.length := by
      simp only [Number.spanDigits, List.dropWhile_cons, digit, ↓reduceIte]
      exact (List.dropWhile_sublist _).length_le
    omega
  · have point : c = '.' := by simpa [digit] using starts
    subst point
    have stays : Number.spanDigits ('.' :: rest) = ([], '.' :: rest) := by
      simp [Number.spanDigits]
    have behind := length_spanDigits rest
    rw [stays] at exponent ⊢
    simp only [spanFraction] at exponent ⊢
    omega

/-- Reading a token uses at least its first character. -/
theorem length_scan (c : Char) (rest : List Char) : (scan c rest).2.length ≤ rest.length := by
  unfold scan
  split
  · exact Nat.le_refl _
  · split
    · split
      · simp
      · rename_i after found
        have shorter := (List.dropWhile_sublist (l := rest) (· != ']')).length_le
        rw [found] at shorter
        exact Nat.le_of_succ_le shorter
    · split
      · exact (List.dropWhile_sublist _).length_le
      · split
        · rename_i starts
          exact length_spanNumber c rest starts
        · exact Nat.le_refl _

/-- The tokens of a text, up to its end or to the first place that holds none. -/
def lex (chars : List Char) : List Token :=
  match _found : chars.dropWhile Text.isBlank with
  | [] => []
  | c :: rest =>
    match _read : scan c rest with
    | (invalid fault, _) => [invalid fault]
    | (token, after) => token :: lex after
termination_by chars.length
decreasing_by
  have kept := (List.dropWhile_sublist (l := chars) Text.isBlank).length_le
  have used := length_scan c rest
  rw [_found] at kept
  rw [_read] at used
  exact Nat.lt_of_le_of_lt used kept

end Token

end FormReport.Expression
