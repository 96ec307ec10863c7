import FormReport.Expression.Parser
import FormReport.Proofs.Sequence

set_option autoImplicit false

/- The grammar of expressions, stated without a parser: which tokens a text consists of, and which
tree a row of tokens stands for. A text is an expression just when the grammar has a tree for all of
its tokens, and then the parser gives that tree. -/
namespace FormReport.Expression

namespace Token

/-- The tokens of a whole text, from its start to its end. A text that holds a place without a token
has none. -/
inductive Lexes : List Char → List Token → Prop where
  | done {chars : List Char} (blank : chars.dropWhile Text.isBlank = []) : Lexes chars []
  | more {chars rest after : List Char} {c : Char} {token : Token} {others : List Token}
      (found : chars.dropWhile Text.isBlank = c :: rest) (read : scan c rest = (token, after))
      (valid : ∀ fault, token ≠ .invalid fault) (remaining : Lexes after others) :
      Lexes chars (token :: others)

/-- The next step of reading tokens, by what stands behind the blanks. -/
theorem lex_step (chars : List Char) :
    (chars.dropWhile Text.isBlank = [] ∧ lex chars = []) ∨
      ∃ c rest token after, chars.dropWhile Text.isBlank = c :: rest ∧
        scan c rest = (token, after) ∧ after.length < chars.length ∧
        ((∃ fault, token = .invalid fault ∧ lex chars = [.invalid fault]) ∨
          ((∀ fault, token ≠ .invalid fault) ∧ lex chars = token :: lex after)) := by
  rw [lex]
  split
  · rename_i blank
    exact Or.inl ⟨blank, rfl⟩
  · rename_i c rest found
    have kept := (List.dropWhile_sublist (l := chars) Text.isBlank).length_le
    have used := length_scan c rest
    rw [found, List.length_cons] at kept
    refine Or.inr ⟨c, rest, (scan c rest).1, (scan c rest).2, found, rfl, by omega, ?_⟩
    split
    · rename_i fault after read
      exact Or.inl ⟨fault, by rw [read], rfl⟩
    · rename_i token after valid read
      rw [read]
      exact Or.inr ⟨valid, rfl⟩

theorem lexes_iff {chars : List Char} {tokens : List Token} :
    Lexes chars tokens ↔ lex chars = tokens ∧ ∀ fault, .invalid fault ∉ tokens := by
  constructor
  · intro lexed
    induction lexed with
    | done blank =>
      rcases lex_step _ with ⟨_, stops⟩ | ⟨c, rest, _, _, found, _⟩
      · exact ⟨stops, fun _ => List.not_mem_nil⟩
      · rw [blank] at found
        cases found
    | more found read valid _ ih =>
      obtain ⟨others, clean⟩ := ih
      rcases lex_step _ with ⟨blank, _⟩ | ⟨c, rest, token, after, same, scanned, _, goes⟩
      · rw [found] at blank
        cases blank
      · rw [found] at same
        cases same
        rw [read] at scanned
        cases scanned
        rcases goes with ⟨fault, broken, _⟩ | ⟨_, goes⟩
        · exact absurd broken (valid fault)
        · rw [goes, others]
          refine ⟨rfl, fun fault inside => ?_⟩
          rcases List.mem_cons.mp inside with here | later
          · exact valid fault here.symm
          · exact clean fault later
  · rintro ⟨rfl, clean⟩
    induction size : chars.length using Nat.strongRecOn generalizing chars with
    | ind length ih =>
      rcases lex_step chars with ⟨blank, stops⟩ | ⟨c, rest, token, after, found, read, shorter, goes⟩
      · rw [stops]
        exact .done blank
      · rcases goes with ⟨fault, _, stops⟩ | ⟨valid, goes⟩
        · rw [stops] at clean
          exact absurd List.mem_cons_self (clean fault)
        · rw [goes] at clean ⊢
          refine .more found read valid (ih _ (size ▸ shorter) ?_ rfl)
          exact fun fault inside => clean fault (List.mem_cons_of_mem _ inside)

end Token

/-- The levels of an expression, the loosest first. -/
inductive Level where
  | sum
  | product
  | signed
  | primary

/-- The tokens that stand for a tree at a level: a sum is a product with any number of products added
to or subtracted from it, grouped to the left; a product is made of signed operands in the same way;
signs stand before a name, a number or a sum in parentheses. Every token is used once, in order. -/
inductive Derives : Level → List Token → Expression String → Prop where
  | term {tokens : List Token} {tree : Expression String} (product : Derives .product tokens tree) :
      Derives .sum tokens tree
  | add {lefts rights : List Token} {left right : Expression String}
      (first : Derives .sum lefts left) (second : Derives .product rights right) :
      Derives .sum (lefts ++ .plus :: rights) (.binary .add left right)
  | subtract {lefts rights : List Token} {left right : Expression String}
      (first : Derives .sum lefts left) (second : Derives .product rights right) :
      Derives .sum (lefts ++ .minus :: rights) (.binary .sub left right)
  | factor {tokens : List Token} {tree : Expression String} (operand : Derives .signed tokens tree) :
      Derives .product tokens tree
  | multiply {lefts rights : List Token} {left right : Expression String}
      (first : Derives .product lefts left) (second : Derives .signed rights right) :
      Derives .product (lefts ++ .star :: rights) (.binary .mul left right)
  | divide {lefts rights : List Token} {left right : Expression String}
      (first : Derives .product lefts left) (second : Derives .signed rights right) :
      Derives .product (lefts ++ .slash :: rights) (.binary .div left right)
  | unsigned {tokens : List Token} {tree : Expression String}
      (operand : Derives .primary tokens tree) : Derives .signed tokens tree
  | positive {tokens : List Token} {tree : Expression String}
      (operand : Derives .signed tokens tree) : Derives .signed (.plus :: tokens) tree
  | negative {tokens : List Token} {tree : Expression String}
      (operand : Derives .signed tokens tree) : Derives .signed (.minus :: tokens) (.neg tree)
  | name (text : String) : Derives .primary [.name text] (.ref text)
  | number (value : Float) : Derives .primary [.number value] (.number value)
  | parentheses {tokens : List Token} {tree : Expression String} (inner : Derives .sum tokens tree) :
      Derives .primary (.opening :: tokens ++ [.closing]) tree

namespace Derives

theorem product_of_operator {token : Token} {operator : Operator} {lefts rights : List Token}
    {left right : Expression String} (known : Parser.product? token = some operator)
    (first : Derives .product lefts left) (second : Derives .signed rights right) :
    Derives .product (lefts ++ token :: rights) (.binary operator left right) := by
  cases token <;> cases known
  · exact first.multiply second
  · exact first.divide second

theorem sum_of_operator {token : Token} {operator : Operator} {lefts rights : List Token}
    {left right : Expression String} (known : Parser.sum? token = some operator)
    (first : Derives .sum lefts left) (second : Derives .product rights right) :
    Derives .sum (lefts ++ token :: rights) (.binary operator left right) := by
  cases token <;> cases known
  · exact first.add second
  · exact first.subtract second

/-- A place without a token is no part of an expression. -/
theorem valid {level : Level} {tokens : List Token} {tree : Expression String}
    (derived : Derives level tokens tree) (fault : LexicalFault) : .invalid fault ∉ tokens := by
  induction derived <;> simp_all

/-- What stands for a tree at some level is an expression. -/
theorem sum {level : Level} {tokens : List Token} {tree : Expression String}
    (derived : Derives level tokens tree) : Derives .sum tokens tree := by
  cases level with
  | sum => exact derived
  | product => exact derived.term
  | signed => exact derived.factor.term
  | primary => exact derived.unsigned.factor.term

end Derives

namespace Parser

/-- Whether what a parser takes off the tokens stands for its tree. -/
def Sound (level : Level) (parser : List Token → Parsed) : Prop :=
  ∀ tokens tree rest, parser tokens = .ok (tree, rest) →
    ∃ used, tokens = used ++ rest ∧ Derives level used tree

theorem failAt_ne_ok {α : Type} {fault : Option Token → ParseFault} {tokens : List Token}
    {value : α} : failAt fault tokens ≠ .ok value := by
  intro success
  unfold failAt at success
  split at success <;> cases success

theorem primary_sound {inner : List Token → Parsed} (sound : Sound .sum inner) :
    Sound .primary (primary inner) := by
  intro tokens tree rest success
  unfold primary at success
  split at success
  · rename_i text _
    cases success
    exact ⟨[.name text], rfl, .name text⟩
  · rename_i value _
    cases success
    exact ⟨[.number value], rfl, .number value⟩
  · obtain ⟨⟨inside, behind⟩, parsed, closed⟩ := bind_eq_ok.mp success
    obtain ⟨used, rfl, derived⟩ := sound _ _ _ parsed
    split at closed
    · rename_i same
      cases same
      cases closed
      exact ⟨.opening :: used ++ [.closing], by simp, derived.parentheses⟩
    · exact absurd closed failAt_ne_ok
  · exact absurd success failAt_ne_ok

theorem signed_sound {operand : List Token → Parsed} (sound : Sound .primary operand) :
    Sound .signed (signed operand) := by
  intro tokens
  induction tokens with
  | nil =>
    intro tree rest success
    obtain ⟨used, same, derived⟩ := sound _ _ _ success
    exact ⟨used, same, derived.unsigned⟩
  | cons token others ih =>
    intro tree rest success
    unfold signed at success
    split at success
    · rename_i same
      cases same
      obtain ⟨used, rfl, derived⟩ := ih _ _ success
      exact ⟨.plus :: used, rfl, derived.positive⟩
    · rename_i same
      cases same
      obtain ⟨⟨inside, behind⟩, parsed, same⟩ := bind_eq_ok.mp success
      cases same
      obtain ⟨used, rfl, derived⟩ := ih _ _ parsed
      exact ⟨.minus :: used, rfl, derived.negative⟩
    · obtain ⟨used, same, derived⟩ := sound _ _ _ success
      exact ⟨used, same, derived.unsigned⟩

/-- Going on with a tree adds to the tokens that it stands for. -/
theorem continued_sound {operator? : Token → Option Operator} {operand : List Token → Parsed}
    {level lower : Level} (sound : Sound lower operand)
    (join : ∀ {token operator lefts rights left right}, operator? token = some operator →
      Derives level lefts left → Derives lower rights right →
      Derives level (lefts ++ token :: rights) (.binary operator left right))
    (left : Expression String) (tokens : List Token) (used : List Token)
    (derived : Derives level used left) (tree : Expression String) (rest : List Token)
    (success : continued operator? operand left tokens = .ok (tree, rest)) :
    ∃ all, used ++ tokens = all ++ rest ∧ Derives level all tree := by
  induction left, tokens using continued.induct operator? operand
    generalizing used with
  | case1 left =>
    rw [continued] at success
    cases success
    exact ⟨used, rfl, derived⟩
  | case2 left reason others =>
    rw [continued] at success
    cases success
  | case3 left token others valid none =>
    rw [continued, none] at success
    · cases success
      exact ⟨used, rfl, derived⟩
    · exact valid
  | case4 left token others valid operator known fault failed =>
    rw [continued, known] at success
    · simp only [failed, reduceCtorEq] at success
    · exact valid
  | case5 left token others valid operator known right after parsed shorter ih =>
    rw [continued, known] at success
    · simp only [parsed, shorter, ↓reduceIte] at success
      obtain ⟨rights, rfl, second⟩ := sound _ _ _ parsed
      obtain ⟨all, same, whole⟩ := ih _ (join known derived second) success
      exact ⟨all, by rw [← same]; simp, whole⟩
    · exact valid
  | case6 left token others valid operator known right after parsed longer =>
    rw [continued, known] at success
    · simp only [parsed, longer, ↓reduceIte] at success
      cases success
      obtain ⟨rights, rfl, second⟩ := sound _ _ _ parsed
      exact ⟨_, by simp, join known derived second⟩
    · exact valid

theorem chain_sound {operator? : Token → Option Operator} {operand : List Token → Parsed}
    {level lower : Level} (sound : Sound lower operand)
    (single : ∀ {tokens tree}, Derives lower tokens tree → Derives level tokens tree)
    (join : ∀ {token operator lefts rights left right}, operator? token = some operator →
      Derives level lefts left → Derives lower rights right →
      Derives level (lefts ++ token :: rights) (.binary operator left right)) :
    Sound level (chain operator? operand) := by
  intro tokens tree rest success
  obtain ⟨⟨left, behind⟩, parsed, goesOn⟩ := bind_eq_ok.mp success
  obtain ⟨used, rfl, derived⟩ := sound _ _ _ parsed
  exact continued_sound sound join left behind used (single derived) tree rest goesOn

/-- The parsers of all levels, over a parser for what stands in parentheses. -/
def atLevel (inner : List Token → Parsed) : Level → List Token → Parsed
  | .sum => chain sum? (chain product? (signed (primary inner)))
  | .product => chain product? (signed (primary inner))
  | .signed => signed (primary inner)
  | .primary => primary inner

/-- What stands in parentheses when there may be so many inside each other. -/
def inside : Nat → List Token → Parsed
  | 0 => failAt .unexpected
  | depth + 1 => sum depth

theorem sum_eq_atLevel (depth : Nat) : sum depth = atLevel (inside depth) .sum := by
  cases depth <;> rfl

theorem sum_sound (depth : Nat) : Sound .sum (sum depth) := by
  have above {inner : List Token → Parsed} (sound : Sound .sum inner) :
      Sound .sum (atLevel inner .sum) :=
    chain_sound (chain_sound (signed_sound (primary_sound sound)) .factor
      Derives.product_of_operator) .term Derives.sum_of_operator
  induction depth with
  | zero => exact above fun _ _ _ success => absurd success failAt_ne_ok
  | succ depth ih => exact above ih

/-- Whether a chain of operands ends before some tokens: neither one of its operators comes next nor
a place without a token. -/
def Ends (operator? : Token → Option Operator) (rest : List Token) : Prop :=
  ∀ token ∈ rest.head?, operator? token = none ∧ ∀ fault, token ≠ .invalid fault

theorem continued_of_ends {operator? : Token → Option Operator} {operand : List Token → Parsed}
    {left : Expression String} {rest : List Token} (ends : Ends operator? rest) :
    continued operator? operand left rest = .ok (left, rest) := by
  cases rest with
  | nil => rw [continued]
  | cons token rest =>
    obtain ⟨none, valid⟩ := ends token rfl
    rw [continued, none]
    rintro fault rfl
    exact valid fault rfl

theorem continued_of_operator {operator? : Token → Option Operator}
    {operand : List Token → Parsed} {left right : Expression String} {token : Token}
    {operator : Operator} {rights rest : List Token} (known : operator? token = some operator)
    (valid : ∀ fault, token ≠ .invalid fault)
    (parsed : operand (rights ++ rest) = .ok (right, rest)) :
    continued operator? operand left (token :: (rights ++ rest)) =
      continued operator? operand (.binary operator left right) rest := by
  rw [continued, known]
  · have shorter : rest.length ≤ (rights ++ rest).length := by
      rw [List.length_append]
      omega
    simp only [parsed, shorter, ↓reduceIte]
  · rintro fault rfl
    exact valid fault rfl

/-- What the parser of a level makes of the tokens for a tree, whatever follows. The two kinds of
chains go on behind them; a sum does so only where its last product has ended. -/
def Reads (inner : List Token → Parsed) (used : List Token) (tree : Expression String) :
    Level → Prop
  | .sum => ∀ rest, Ends product? rest → atLevel inner .sum (used ++ rest) =
      continued sum? (atLevel inner .product) tree rest
  | .product => ∀ rest, atLevel inner .product (used ++ rest) =
      continued product? (atLevel inner .signed) tree rest
  | .signed => ∀ rest, atLevel inner .signed (used ++ rest) = .ok (tree, rest)
  | .primary => ∀ rest, atLevel inner .primary (used ++ rest) = .ok (tree, rest)

theorem chain_of_parsed {operator? : Token → Option Operator} {operand : List Token → Parsed}
    {tokens rest : List Token} {left : Expression String}
    (parsed : operand tokens = .ok (left, rest)) :
    chain operator? operand tokens = continued operator? operand left rest := by
  rw [chain, parsed]
  rfl

theorem Reads.product_of_operator {inner : List Token → Parsed} {lefts rights : List Token}
    {left right : Expression String} {token : Token} {operator : Operator}
    (known : product? token = some operator) (first : Reads inner lefts left .product)
    (second : Reads inner rights right .signed) :
    Reads inner (lefts ++ token :: rights) (.binary operator left right) .product := by
  intro rest
  have valid : ∀ fault, token ≠ .invalid fault := by
    rintro fault rfl
    cases known
  rw [List.append_assoc, first, List.cons_append,
    continued_of_operator known valid (second rest)]

theorem ends_of_sum? {token : Token} {operator : Operator} (known : sum? token = some operator)
    (rest : List Token) : Ends product? (token :: rest) := by
  rintro _ ⟨⟩
  cases token <;> cases known <;> exact ⟨rfl, nofun⟩

theorem Reads.sum_of_operator {inner : List Token → Parsed} {lefts rights : List Token}
    {left right : Expression String} {token : Token} {operator : Operator}
    (known : sum? token = some operator) (first : Reads inner lefts left .sum)
    (second : Reads inner rights right .product) :
    Reads inner (lefts ++ token :: rights) (.binary operator left right) .sum := by
  intro rest ends
  have valid : ∀ fault, token ≠ .invalid fault := by
    rintro fault rfl
    cases known
  have parsed : atLevel inner .product (rights ++ rest) = .ok (right, rest) := by
    rw [second, continued_of_ends ends]
  rw [List.append_assoc, List.cons_append, first _ (ends_of_sum? known _),
    continued_of_operator known valid parsed]

/-- Tokens for a primary do not begin with a sign. -/
theorem Reads.unsigned {inner : List Token → Parsed} {used : List Token}
    {tree : Expression String} (derived : Derives .primary used tree)
    (read : Reads inner used tree .primary) : Reads inner used tree .signed := by
  intro rest
  rw [← read rest]
  cases derived <;> rfl

theorem Reads.negative {inner : List Token → Parsed} {used : List Token}
    {tree : Expression String} (read : Reads inner used tree .signed) :
    Reads inner (.minus :: used) (.neg tree) .signed := by
  intro rest
  have parsed : signed (primary inner) (used ++ rest) = .ok (tree, rest) := read rest
  rw [List.cons_append, atLevel, signed, parsed]
  rfl

theorem Reads.parentheses {depth : Nat} {used : List Token} {tree : Expression String}
    (read : Reads (inside depth) used tree .sum) :
    Reads (inside (depth + 1)) (.opening :: used ++ [.closing]) tree .primary := by
  intro rest
  have sumEnds : Ends sum? (.closing :: rest) := by
    rintro _ ⟨⟩
    exact ⟨rfl, nofun⟩
  have productEnds : Ends product? (.closing :: rest) := by
    rintro _ ⟨⟩
    exact ⟨rfl, nofun⟩
  have parsed : sum depth (used ++ .closing :: rest) = .ok (tree, .closing :: rest) := by
    rw [sum_eq_atLevel, read _ productEnds, continued_of_ends sumEnds]
  have regrouped : .opening :: used ++ [.closing] ++ rest = .opening :: (used ++ .closing :: rest) := by
    simp
  rw [regrouped, atLevel, primary, inside, parsed]
  rfl

/-- The parser finds every tree of the grammar. There are never more parentheses inside each other
than there are tokens. -/
theorem reads_of_derives {level : Level} {used : List Token} {tree : Expression String}
    (derived : Derives level used tree) (depth : Nat) (bound : used.length ≤ depth) :
    Reads (inside depth) used tree level := by
  induction derived generalizing depth with
  | term product ih =>
    intro rest ends
    have parsed := ih depth bound rest
    rw [continued_of_ends ends] at parsed
    exact chain_of_parsed parsed
  | add first second first_ih second_ih =>
    rw [List.length_append, List.length_cons] at bound
    exact Reads.sum_of_operator rfl (first_ih depth (by omega)) (second_ih depth (by omega))
  | subtract first second first_ih second_ih =>
    rw [List.length_append, List.length_cons] at bound
    exact Reads.sum_of_operator rfl (first_ih depth (by omega)) (second_ih depth (by omega))
  | factor operand ih => exact fun rest => chain_of_parsed (ih depth bound rest)
  | multiply first second first_ih second_ih =>
    rw [List.length_append, List.length_cons] at bound
    exact Reads.product_of_operator rfl (first_ih depth (by omega)) (second_ih depth (by omega))
  | divide first second first_ih second_ih =>
    rw [List.length_append, List.length_cons] at bound
    exact Reads.product_of_operator rfl (first_ih depth (by omega)) (second_ih depth (by omega))
  | unsigned operand ih => exact Reads.unsigned operand (ih depth bound)
  | positive operand ih =>
    rw [List.length_cons] at bound
    exact ih depth (by omega)
  | negative operand ih =>
    rw [List.length_cons] at bound
    exact (ih depth (by omega)).negative
  | name text => exact fun _ => rfl
  | number value => exact fun _ => rfl
  | parentheses inner ih =>
    simp only [List.length_append, List.length_cons] at bound
    obtain ⟨below, rfl⟩ : ∃ below, depth = below + 1 := ⟨depth - 1, by omega⟩
    exact (ih below (by omega)).parentheses

theorem all_eq_ok_iff {tokens : List Token} {tree : Expression String} :
    all tokens = .ok tree ↔ Derives .sum tokens tree := by
  constructor
  · intro success
    obtain ⟨⟨found, rest⟩, parsed, complete⟩ := bind_eq_ok.mp success
    obtain ⟨used, same, derived⟩ := sum_sound _ _ _ _ parsed
    cases rest with
    | nil =>
      cases complete
      rw [same, List.append_nil]
      exact derived
    | cons token others => cases complete
  · intro derived
    have parsed := reads_of_derives derived tokens.length (Nat.le_refl _) []
      (fun _ none => nomatch none)
    rw [← sum_eq_atLevel, List.append_nil, continued] at parsed
    rw [all, parsed]
    rfl

end Parser

/-- A text is read as a tree just when the grammar has that tree for its tokens. No row of tokens
stands for two trees. -/
theorem parse_eq_ok_iff_derives :
    (∀ (source : String) (tree : Expression String), parse source = .ok tree ↔
      ∃ tokens, Token.Lexes source.toList tokens ∧ Derives .sum tokens tree) ∧
    ∀ (level : Level) (tokens : List Token) (first second : Expression String),
      Derives level tokens first → Derives level tokens second → first = second := by
  constructor
  · intro source tree
    rw [parse, Parser.all_eq_ok_iff]
    constructor
    · intro derived
      exact ⟨_, Token.lexes_iff.mpr ⟨rfl, derived.valid⟩, derived⟩
    · rintro ⟨tokens, lexed, derived⟩
      rw [(Token.lexes_iff.mp lexed).1]
      exact derived
  · intro level tokens first second one other
    have parsed := Parser.all_eq_ok_iff.mpr one.sum
    rw [Parser.all_eq_ok_iff.mpr other.sum] at parsed
    exact (Except.ok.inj parsed).symm

/-- Signs, parentheses and both kinds of chains in one text. -/
theorem parse_eq_ok_iff_derives_chain :
    parse "a - -b / c - (a + [d e])" = .ok
        (.binary .sub
          (.binary .sub (.ref "a") (.binary .div (.neg (.ref "b")) (.ref "c")))
          (.binary .add (.ref "a") (.ref "d e"))) ∧
      ∀ tree, Derives .product [.name "b", .star, .minus, .number 2, .slash, .name "c"] tree →
        tree = .binary .div (.binary .mul (.ref "b") (.neg (.number 2))) (.ref "c") := by
  obtain ⟨parsed, unique⟩ := parse_eq_ok_iff_derives
  constructor
  · refine (parsed _ _).mpr ⟨[.name "a", .minus, .minus, .name "b", .slash, .name "c", .minus,
      .opening, .name "a", .plus, .name "d e", .closing], ?_, ?_⟩
    · have lexed : Token.lex "a - -b / c - (a + [d e])".toList = [.name "a", .minus, .minus,
          .name "b", .slash, .name "c", .minus, .opening, .name "a", .plus, .name "d e",
          .closing] := by decide +kernel
      exact Token.lexes_iff.mpr ⟨lexed, by simp⟩
    · have quotient : Derives .product [.minus, .name "b", .slash, .name "c"] _ :=
        (Derives.name "b").unsigned.negative.factor.divide (Derives.name "c").unsigned
      have inner : Derives .sum [.name "a", .plus, .name "d e"] _ :=
        (Derives.name "a").sum.add (Derives.name "d e").unsigned.factor
      exact ((Derives.name "a").sum.subtract quotient).subtract inner.parentheses.unsigned.factor
  · intro tree derived
    have product := (Derives.name "b").unsigned.factor.multiply (Derives.number 2).unsigned.negative
    exact unique _ _ _ _ derived (product.divide (Derives.name "c").unsigned)

end FormReport.Expression
