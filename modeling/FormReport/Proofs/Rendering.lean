import FormReport.Proofs.Scanning

set_option autoImplicit false

/- Expressions as texts. A tree is written in infix form, with parentheses only where precedence and
grouping to the left need them; whatever blanks stand between its tokens and whichever form its marks
have, the text is read as the tree again. -/
namespace FormReport

namespace Expression

/-- How tight a level binds. -/
def Level.rank : Level → ℕ
  | sum => 0
  | product => 1
  | signed => 2
  | primary => 3

/-- The level of what stands behind an operator of a level. -/
def Level.tighter : Level → Level
  | sum => product
  | product => signed
  | signed => primary
  | primary => primary

/-- What stands for a tree at a tighter level stands for it at a looser one. -/
theorem Derives.loosen {place level : Level} (fits : place.rank ≤ level.rank) {tokens : List Token}
    {tree : Expression String} (derived : Derives level tokens tree) : Derives place tokens tree := by
  cases place with
  | sum => exact derived.sum
  | product =>
    cases level with
    | sum => exact absurd fits (by decide)
    | product => exact derived
    | signed => exact derived.factor
    | primary => exact derived.unsigned.factor
  | signed =>
    cases level with
    | sum => exact absurd fits (by decide)
    | product => exact absurd fits (by decide)
    | signed => exact derived
    | primary => exact derived.unsigned
  | primary =>
    cases level with
    | primary => exact derived
    | sum => exact absurd fits (by decide)
    | product => exact absurd fits (by decide)
    | signed => exact absurd fits (by decide)

end Expression

namespace Operator

open Expression (Level Token Derives)

def level : Operator → Level
  | add => .sum
  | sub => .sum
  | mul => .product
  | div => .product

def token : Operator → Token
  | add => .plus
  | sub => .minus
  | mul => .star
  | div => .slash

theorem derives (operator : Operator) {lefts rights : List Token} {left right : Expression String}
    (first : Derives operator.level lefts left) (second : Derives operator.level.tighter rights right) :
    Derives operator.level (lefts ++ operator.token :: rights) (.binary operator left right) := by
  cases operator with
  | add => exact first.add second
  | sub => exact first.subtract second
  | mul => exact first.multiply second
  | div => exact first.divide second

end Operator

namespace Expression

/-- The level of a tree without parentheses around it. -/
def level : Expression String → Level
  | ref _ => .primary
  | number _ => .primary
  | neg _ => .signed
  | binary operator _ _ => operator.level

/-- The tokens of a tree at a place, in parentheses where the tree binds less tight than the place asks
for. What stands behind an operator has to bind tighter than the operator, since operators of one level
group to the left. -/
def tokensAt (place : Level) (tree : Expression String) : List Token :=
  let tokens := match tree with
    | ref name => [.name name]
    | number value => [.number value]
    | neg inner => .minus :: inner.tokensAt .signed
    | binary operator left right =>
      left.tokensAt operator.level ++ operator.token :: right.tokensAt operator.level.tighter
  if place.rank ≤ tree.level.rank then tokens else .opening :: tokens ++ [.closing]

theorem tokensAt_eq (place : Level) (tree : Expression String) :
    tree.tokensAt place = if place.rank ≤ tree.level.rank then tree.tokensAt .sum
      else .opening :: tree.tokensAt .sum ++ [.closing] := by
  cases tree <;> rfl

theorem tokensAt_of_fits {place : Level} {tree : Expression String}
    (fits : place.rank ≤ tree.level.rank) : tree.tokensAt place = tree.tokensAt .sum := by
  rw [tokensAt_eq, if_pos fits]

/-- What stands for a tree at its own level stands for it at any place, in parentheses where needed. -/
theorem derives_tokensAt (tree : Expression String) (place : Level) :
    Derives place (tree.tokensAt place) tree := by
  have placed {tree : Expression String} {place : Level}
      (own : Derives tree.level (tree.tokensAt .sum) tree) :
      Derives place (tree.tokensAt place) tree := by
    rw [tokensAt_eq]
    split
    · rename_i fits
      exact own.loosen fits
    · exact own.sum.parentheses.loosen (by cases place <;> decide)
  induction tree generalizing place with
  | ref name => exact placed (.name name)
  | number value => exact placed (.number value)
  | neg inner ih => exact placed (ih .signed).negative
  | binary operator left right first second =>
    exact placed (operator.derives (first operator.level) (second operator.level.tighter))

/-- At a tighter place a tree has the same tokens or two parentheses more. -/
theorem length_tokensAt_mono {place tighter : Level} (tight : place.rank ≤ tighter.rank)
    (tree : Expression String) : (tree.tokensAt place).length ≤ (tree.tokensAt tighter).length := by
  rw [tokensAt_eq place, tokensAt_eq tighter]
  split
  · split
    · exact Nat.le_refl _
    · simp only [List.length_append, List.length_cons]
      omega
  · rename_i loose
    rw [if_neg (by omega)]

/-- No row of tokens that stands for a tree at a place is shorter, so no parentheses could be left out. -/
theorem length_tokensAt_le {place : Level} {tokens : List Token} {tree : Expression String}
    (derived : Derives place tokens tree) : (tree.tokensAt place).length ≤ tokens.length := by
  have joined (operator : Operator) {left right : Expression String} {lefts rights : List Token}
      (first : (left.tokensAt operator.level).length ≤ lefts.length)
      (second : (right.tokensAt operator.level.tighter).length ≤ rights.length) (token : Token) :
      ((binary operator left right).tokensAt operator.level).length ≤
        (lefts ++ token :: rights).length := by
    have fits : operator.level.rank ≤ (binary operator left right).level.rank := Nat.le_refl _
    rw [tokensAt_of_fits fits]
    change (left.tokensAt operator.level ++
      operator.token :: right.tokensAt operator.level.tighter).length ≤ _
    simp only [List.length_append, List.length_cons]
    omega
  induction derived with
  | term _ ih => exact (length_tokensAt_mono (by decide) _).trans ih
  | add _ _ first second => exact joined .add first second .plus
  | subtract _ _ first second => exact joined .sub first second .minus
  | factor _ ih => exact (length_tokensAt_mono (by decide) _).trans ih
  | multiply _ _ first second => exact joined .mul first second .star
  | divide _ _ first second => exact joined .div first second .slash
  | unsigned _ ih => exact (length_tokensAt_mono (by decide) _).trans ih
  | positive _ ih =>
    rw [List.length_cons]
    omega
  | negative _ ih => exact Nat.succ_le_succ ih
  | name text => exact Nat.le_refl _
  | number value => exact Nat.le_refl _
  | parentheses _ ih =>
    rw [tokensAt_eq]
    split <;> simp only [List.length_append, List.length_cons] <;> omega

/-- Whether the names of a tree can stand in brackets and its numbers have literals. -/
def IsWritable : Expression String → Prop
  | ref name => Token.IsBracketable name
  | number value => ∃ raw, Number.readUnsigned? raw = some value
  | neg inner => inner.IsWritable
  | binary _ left right => left.IsWritable ∧ right.IsWritable

theorem IsWritable.of_mem_tokensAt {tree : Expression String} (writable : tree.IsWritable)
    (place : Level) : ∀ token ∈ tree.tokensAt place, token.IsWritable := by
  have placed {tree : Expression String} {place : Level}
      (bare : ∀ token ∈ tree.tokensAt .sum, token.IsWritable) :
      ∀ token ∈ tree.tokensAt place, token.IsWritable := by
    rw [tokensAt_eq]
    split
    · exact bare
    · rw [List.forall_mem_append, List.forall_mem_cons, List.forall_mem_singleton]
      exact ⟨⟨trivial, bare⟩, trivial⟩
  induction tree generalizing place with
  | ref name => exact placed (List.forall_mem_singleton.mpr writable)
  | number value => exact placed (List.forall_mem_singleton.mpr writable)
  | neg inner ih => exact placed (List.forall_mem_cons.mpr ⟨trivial, ih writable .signed⟩)
  | binary operator left right first second =>
    have mark : operator.token.IsWritable := by cases operator <;> trivial
    exact placed (List.forall_mem_append.mpr ⟨first writable.1 operator.level,
      List.forall_mem_cons.mpr ⟨mark, second writable.2 operator.level.tighter⟩⟩)

namespace Token

/-- The characters of a row of tokens, with any blanks before, between and behind them. -/
inductive Spells : List Token → List Char → Prop where
  | nil : Spells [] []
  | blank {tokens : List Token} {c : Char} {rest : List Char} (blank : Text.isBlank c = true)
      (spells : Spells tokens rest) : Spells tokens (c :: rest)
  | token {token : Token} {tokens : List Token} {chars rest : List Char}
      (spelled : Spelled token chars) (spells : Spells tokens rest) :
      Spells (token :: tokens) (chars ++ rest)

theorem exists_spells {tokens : List Token} (writable : ∀ token ∈ tokens, token.IsWritable) :
    ∃ chars, Spells tokens chars := by
  induction tokens with
  | nil => exact ⟨[], .nil⟩
  | cons token tokens ih =>
    obtain ⟨here, others⟩ := List.forall_mem_cons.mp writable
    obtain ⟨chars, spelled⟩ := here.exists_spelled
    obtain ⟨rest, spells⟩ := ih others
    exact ⟨chars ++ rest, .token spelled spells⟩

/-- Only another number can go on with a number. -/
theorem Spells.endsNumber {tokens : List Token} {chars : List Char} (spells : Spells tokens chars)
    (apart : ∀ token ∈ tokens.head?, ¬ token.IsNumber) : EndsNumber chars := by
  cases spells with
  | nil => exact fun _ none => nomatch none
  | @blank _ c _ blank _ =>
    rintro _ ⟨⟩
    have filled (numeral : c.isDigit = true ∨ c = '.') : False := by
      rw [(Number.not_special numeral).1] at blank
      cases blank
    refine ⟨?_, fun point => filled (.inr point), ?_, ?_⟩
    · exact Bool.eq_false_iff.mpr fun digit => filled (.inl digit)
    · rintro rfl
      exact absurd blank (by decide)
    · rintro rfl
      exact absurd blank (by decide)
  | token spelled _ =>
    cases spelled with
    | number read => exact absurd trivial (apart _ rfl)
    | name text =>
      rintro _ ⟨⟩
      decide
    | plus =>
      rintro _ ⟨⟩
      decide
    | minus =>
      rintro _ ⟨⟩
      decide
    | star form => rcases form with rfl | rfl <;> rintro _ ⟨⟩ <;> decide
    | slash form => rcases form with rfl | rfl <;> rintro _ ⟨⟩ <;> decide
    | opening form => rcases form with rfl | rfl <;> rintro _ ⟨⟩ <;> decide
    | closing form => rcases form with rfl | rfl <;> rintro _ ⟨⟩ <;> decide

/-- Whether no number stands directly behind a number. -/
def Apart (tokens : List Token) : Prop :=
  tokens.IsChain fun token next => token.IsNumber → ¬ next.IsNumber

theorem Apart.join {lefts rights : List Token} {token : Token} (first : Apart lefts)
    (second : Apart rights) (mark : ¬ token.IsNumber) : Apart (lefts ++ token :: rights) := by
  refine List.isChain_append.mpr ⟨first, List.isChain_cons.mpr ⟨?_, second⟩, ?_⟩
  · exact fun _ _ number => absurd number mark
  · rintro _ _ _ ⟨⟩ _
    exact mark

theorem apart_of_derives {level : Level} {tokens : List Token} {tree : Expression String}
    (derived : Derives level tokens tree) : Apart tokens := by
  have none : Apart [] := List.isChain_nil
  induction derived with
  | term _ ih => exact ih
  | add _ _ first second => exact first.join second nofun
  | subtract _ _ first second => exact first.join second nofun
  | factor _ ih => exact ih
  | multiply _ _ first second => exact first.join second nofun
  | divide _ _ first second => exact first.join second nofun
  | unsigned _ ih => exact ih
  | positive _ ih => exact none.join ih nofun
  | negative _ ih => exact none.join ih nofun
  | name text => exact List.isChain_singleton _
  | number value => exact List.isChain_singleton _
  | parentheses _ ih =>
    have opened := none.join ih (show ¬ opening.IsNumber from nofun)
    exact opened.join none nofun

theorem Lexes.blank {c : Char} {chars : List Char} {tokens : List Token}
    (blank : Text.isBlank c = true) (lexes : Lexes chars tokens) : Lexes (c :: chars) tokens := by
  have same : (c :: chars).dropWhile Text.isBlank = chars.dropWhile Text.isBlank :=
    List.dropWhile_cons_of_pos blank
  cases lexes with
  | done blank => exact .done (same.trans blank)
  | more found read valid remaining => exact .more (same.trans found) read valid remaining

/-- The characters of a row of tokens are read as the row. -/
theorem Spells.lexes {tokens : List Token} {chars : List Char} (spells : Spells tokens chars)
    (writable : ∀ token ∈ tokens, token.IsWritable) (apart : Apart tokens) : Lexes chars tokens := by
  induction spells with
  | nil => exact .done rfl
  | blank blank _ ih => exact .blank blank (ih writable apart)
  | @token token tokens chars rest spelled spells ih =>
    obtain ⟨here, others⟩ := List.forall_mem_cons.mp writable
    obtain ⟨behind, later⟩ := List.isChain_cons.mp apart
    have ends (number : token.IsNumber) : EndsNumber rest :=
      spells.endsNumber fun next first => behind next first number
    obtain ⟨c, others, rfl, filled, read⟩ := spelled.scan_eq here ends
    refine .more ?_ read ?_ (ih ‹_› later)
    · rw [List.cons_append, List.dropWhile_cons_of_neg (by simp [filled])]
    · rintro fault rfl
      exact here

end Token

/-- Whether a text is a tree in infix form: its tokens in order, with any blanks around them. -/
def Writes (tree : Expression String) (text : String) : Prop :=
  Token.Spells (tree.tokensAt .sum) text.toList

/-- A tree whose names can stand in brackets and whose numbers have literals can be written, and however
it is written, the text is read as the tree. It is written with as few parentheses as there can be. -/
theorem parse_of_writes {tree : Expression String} (writable : tree.IsWritable) :
    (∃ text, Writes tree text) ∧ (∀ text, Writes tree text → parse text = .ok tree) ∧
      ∀ tokens, Derives .sum tokens tree → (tree.tokensAt .sum).length ≤ tokens.length := by
  have tokens := writable.of_mem_tokensAt .sum
  have derived := derives_tokensAt tree .sum
  refine ⟨?_, ?_, fun _ other => length_tokensAt_le other⟩
  · obtain ⟨chars, spells⟩ := Token.exists_spells tokens
    refine ⟨String.ofList chars, ?_⟩
    rw [Writes, String.toList_ofList]
    exact spells
  · intro text writes
    have lexed := writes.lexes tokens (Token.apart_of_derives derived)
    rw [parse, (Token.lexes_iff.mp lexed).1]
    exact Parser.all_eq_ok_iff.mpr derived

/-- A name with a sign and a digit in it, a sign behind an operator, a product divided by, and both forms
of marks. -/
theorem parse_of_writes_quotient :
    parse "[a-1 b]--.5 -[c]÷（3e1*\t[d])" = .ok
      (.binary .sub (.binary .sub (.ref "a-1 b") (.neg (.number 0.5)))
        (.binary .div (.ref "c") (.binary .mul (.number 30) (.ref "d")))) := by
  have half : Number.readUnsigned? ['.', '5'] = some 0.5 := by decide +kernel
  have thirty : Number.readUnsigned? ['3', 'e', '1'] = some 30 := by decide +kernel
  have writable : IsWritable (.binary .sub (.binary .sub (.ref "a-1 b") (.neg (.number 0.5)))
      (.binary .div (.ref "c") (.binary .mul (.number 30) (.ref "d")))) :=
    ⟨⟨show Token.IsBracketable "a-1 b" by decide, _, half⟩, show Token.IsBracketable "c" by decide,
      ⟨_, thirty⟩, show Token.IsBracketable "d" by decide⟩
  refine (parse_of_writes writable).2.1 _ ?_
  have spells : Token.Spells [.name "a-1 b", .minus, .minus, .number 0.5, .minus, .name "c", .slash,
      .opening, .number 30, .star, .name "d", .closing] _ :=
    .token (.name _) <| .token .minus <| .token .minus <| .token (.number half) <|
      .blank (show Text.isBlank ' ' = true from rfl) <| .token .minus <| .token (.name _) <|
      .token (.slash (.inr rfl)) <| .token (.opening (.inr rfl)) <| .token (.number thirty) <|
      .token (.star (.inl rfl)) <| .blank (show Text.isBlank '\t' = true from rfl) <|
      .token (.name _) <| .token (.closing (.inl rfl)) .nil
  exact spells

end Expression

end FormReport
