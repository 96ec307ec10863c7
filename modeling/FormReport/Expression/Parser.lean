import FormReport.Expression.Basic
import FormReport.Expression.Token

set_option autoImplicit false

/- The tree of an expression. Products bind tighter than sums, both group to the left, and signs
bind tightest. A message names the first token that fits nowhere. -/
namespace FormReport.Expression

/-- Why a text is no expression. `none` stands for the end of the text. -/
inductive ParseFault where
  | lexical (fault : LexicalFault)
  | unexpected (got : Option Token)
  | unclosed (got : Option Token)
  | trailing (got : Token)
  deriving DecidableEq

/-- How a token or the end is named in messages. -/
def Token.textOrEnd : Option Token → String
  | some token => token.text
  | none => "Eof"

def ParseFault.message : ParseFault → String
  | lexical fault => fault.message
  | unexpected got => s!"unexpected token: {Token.textOrEnd got}"
  | unclosed got => s!"expected RParen, got {Token.textOrEnd got}"
  | trailing got => s!"unexpected trailing token: {got.text}"

/-- A tree and the tokens behind it. -/
abbrev Parsed := Except ParseFault (Expression String × List Token)

namespace Parser

/-- Fails at the head of the tokens. A place that holds no token is reported as such. -/
def failAt {α : Type} (fault : Option Token → ParseFault) : List Token → Except ParseFault α
  | [] => .error (fault none)
  | .invalid reason :: _ => .error (.lexical reason)
  | token :: _ => .error (fault (some token))

/-- A name, a number or a sum in parentheses. -/
def primary (inner : List Token → Parsed) (tokens : List Token) : Parsed :=
  match tokens with
  | .name text :: rest => .ok (.ref text, rest)
  | .number value :: rest => .ok (.number value, rest)
  | .opening :: rest => do
    match ← inner rest with
    | (tree, .closing :: rest) => .ok (tree, rest)
    | (_, rest) => failAt .unclosed rest
  | tokens => failAt .unexpected tokens

/-- Signs before an operand. A plus sign adds nothing to the tree. -/
def signed (operand : List Token → Parsed) : List Token → Parsed
  | .plus :: rest => signed operand rest
  | .minus :: rest => do
    let (tree, rest) ← signed operand rest
    .ok (.neg tree, rest)
  | tokens => operand tokens

/-- Goes on with a tree as long as an operator follows. -/
def continued (operator? : Token → Option Operator) (operand : List Token → Parsed)
    (left : Expression String) (tokens : List Token) : Parsed :=
  match tokens with
  | [] => .ok (left, [])
  | .invalid reason :: _ => .error (.lexical reason)
  | token :: rest =>
    match operator? token with
    | none => .ok (left, token :: rest)
    | some operator =>
      match operand rest with
      | .error fault => .error fault
      | .ok (right, after) =>
        if after.length ≤ rest.length then
          continued operator? operand (.binary operator left right) after
        else .ok (.binary operator left right, after)
termination_by tokens.length

/-- Operands joined by operators, grouped to the left. -/
def chain (operator? : Token → Option Operator) (operand : List Token → Parsed)
    (tokens : List Token) : Parsed := do
  let (left, rest) ← operand tokens
  continued operator? operand left rest

def product? : Token → Option Operator
  | .star => some .mul
  | .slash => some .div
  | _ => none

def sum? : Token → Option Operator
  | .plus => some .add
  | .minus => some .sub
  | _ => none

/-- A sum with at most `depth` parentheses inside each other. -/
def sum : Nat → List Token → Parsed
  | 0 => chain sum? (chain product? (signed (primary (failAt .unexpected))))
  | depth + 1 => chain sum? (chain product? (signed (primary (sum depth))))

/-- The tree of all tokens; there are never more parentheses than tokens. -/
def all (tokens : List Token) : Except ParseFault (Expression String) := do
  match ← sum tokens.length tokens with
  | (tree, []) => .ok tree
  | (_, token :: _) => .error (.trailing token)

end Parser

/-- The tree of a text. -/
def parse (source : String) : Except ParseFault (Expression String) :=
  Parser.all (Token.lex source.toList)

end FormReport.Expression
