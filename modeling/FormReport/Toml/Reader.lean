import FormReport.Toml.Scalar

set_option autoImplicit false

/- Settings files: lines with keys and values, under the headers of tables. A table is defined once;
a header may come after headers of tables inside it, and dotted keys extend only tables that dotted
keys made. -/
namespace FormReport.Toml

/-- How a table came about. -/
inductive Origin where
  /-- By a header of its own. -/
  | header
  /-- By a header of a table inside it. -/
  | implied
  /-- By a dotted key. -/
  | dotted
  deriving DecidableEq

inductive Node where
  | leaf (value : Json)
  | table (origin : Origin) (entries : List (String × Node))
  /-- Tables under one repeated header, the open one first. -/
  | tables (items : List (List (String × Node)))

mutual

def Node.toJson : Node → Json
  | .leaf value => value
  | .table _ entries => .object (entriesJson entries)
  | .tables items => .array (itemsJson items).reverse

def entriesJson : List (String × Node) → List (String × Json)
  | [] => []
  | (key, node) :: rest => (key, node.toJson) :: entriesJson rest

def itemsJson : List (List (String × Node)) → List Json
  | [] => []
  | entries :: rest => .object (entriesJson entries) :: itemsJson rest

end

abbrev Entries := Keyed Node

/-- Changes the table at a path, making tables on the way where there are none. -/
def change (made : Origin) (modify : Origin → Entries → Option Entries) :
    List String → Origin → Entries → Option Entries
  | [], origin, entries => modify origin entries
  | key :: rest, _, entries => do
    let node ← match entries.get? key with
      | none => do
        let inner ← change made modify rest made []
        some (.table made inner)
      | some (.leaf _) => none
      | some (.tables []) => none
      | some (.tables (inner :: others)) => do
        let inner ← change made modify rest .header inner
        some (.tables (inner :: others))
      | some (.table origin inner) =>
        if made = .dotted ∧ origin = .header then none
        else do
          let inner ← change made modify rest origin inner
          some (.table origin inner)
    some (entries.set key node)

/-- Puts a value under a key that is not there yet. -/
def put (path : List String) (key : String) (value : Json) (entries : Entries) : Option Entries :=
  let modify (origin : Origin) (inner : Entries) : Option Entries :=
    if (origin = .dotted) ↔ path = [] then none
    else if (inner.get? key).isSome then none
    else some (inner ++ [(key, .leaf value)])
  change .dotted modify path .header entries

/-- The most values inside each other, and the most parts of a key. -/
def depthLimit : Nat := 79

def isBare (c : Char) : Bool := c.isAlphanum || c == '_' || c == '-'

/-- One part of a key. -/
def readPart (chars : List Char) : Option (String × List Char) :=
  match chars with
  | '"' :: rest => readBasic [] rest
  | '\'' :: rest => readLiteral [] rest
  | chars =>
    let name := chars.takeWhile isBare
    if name.isEmpty then none else some (String.ofList name, chars.dropWhile isBare)

/-- The parts of a key, joined by points; at most `limit` of them. -/
def readKey (limit : Nat) (chars : List Char) : Option (List String × List Char) :=
  match limit with
  | 0 => none
  | limit + 1 => do
    let (part, rest) ← readPart (skipSpaces chars)
    match skipSpaces rest with
    | '.' :: rest => do
      let (parts, rest) ← readKey limit rest
      some (part :: parts, rest)
    | rest => some ([part], rest)

/-- Parts of a key before the last, and the last. -/
def splitKey (parts : List String) : List String × String :=
  (parts.dropLast, parts.getLast?.getD "")

/-- The rest behind a comment, if there is one; `none` if it holds what no comment may. -/
def skipComment (chars : List Char) : Option (List Char) :=
  match chars with
  | '#' :: rest =>
    let rest := rest.dropWhile isPlain
    if rest.isEmpty || (newline? rest).isSome then some rest else none
  | chars => some chars

/-- Blanks, line ends and comments between the items of a list. -/
def skipGaps (chars : List Char) : Option (List Char) :=
  match skipComment (skipSpaces chars) with
  | none => none
  | some rest =>
    match newline? rest with
    | some rest => if rest.length < chars.length then skipGaps rest else none
    | none => some rest
termination_by chars.length

/-- Items of a list up to its closing bracket; a comma may follow the last. -/
def readItems (value : List Char → Option (Json × List Char)) (chars : List Char) :
    Option (List Json × List Char) :=
  match skipGaps chars with
  | none => none
  | some (']' :: rest) => some ([], rest)
  | some start =>
    match value start with
    | none => none
    | some (item, rest) =>
      match skipGaps rest with
      | some (']' :: rest) => some ([item], rest)
      | some (',' :: rest) =>
        if rest.length < chars.length then
          (readItems value rest).map fun (others, rest) => (item :: others, rest)
        else none
      | _ => none
termination_by chars.length

/-- A key, the equals sign and a value. -/
def readPair (value : List Char → Option (Json × List Char)) (chars : List Char) :
    Option ((List String × Json) × List Char) := do
  let (key, rest) ← readKey depthLimit chars
  let rest ← Json.expect "=" (skipSpaces rest)
  let (content, rest) ← value (skipSpaces rest)
  some ((key, content), rest)

/-- The pairs of a table in braces, on one line and without a comma behind the last. -/
def readPairs (value : List Char → Option (Json × List Char)) (entries : Entries)
    (chars : List Char) : Option (Entries × List Char) :=
  match readPair value chars with
  | none => none
  | some ((key, content), rest) =>
    match put (splitKey key).1 (splitKey key).2 content entries with
    | none => none
    | some entries =>
      match skipSpaces rest with
      | '\x7d' :: rest => some (entries, rest)
      | ',' :: rest =>
        if rest.length < chars.length then readPairs value entries rest else none
      | _ => none
termination_by chars.length

/-- A value with at most `depth` lists and tables inside each other. -/
def readValue : Nat → List Char → Option (Json × List Char)
  | 0, chars =>
    match chars with
    | '[' :: _ | '\x7b' :: _ => none
    | chars => readScalar chars
  | depth + 1, chars =>
    match chars with
    | '[' :: rest =>
      (readItems (readValue depth) rest).map fun (items, rest) => (.array items, rest)
    | '\x7b' :: rest =>
      match skipSpaces rest with
      | '\x7d' :: rest => some (.object [], rest)
      | rest =>
        (readPairs (readValue depth) [] rest).map fun (entries, rest) =>
          (.object (entriesJson entries), rest)
    | chars => readScalar chars

/-- A file as far as it is read: the finished tables, and the open one with its header. -/
structure Draft where
  finished : Entries
  path : List String
  repeated : Bool
  current : Entries

namespace Draft

def start : Draft := ⟨[], [], false, []⟩

/-- Puts the open table into its place. -/
def close (draft : Draft) : Option Entries :=
  if draft.path = [] then some draft.current
  else
    let (path, key) := splitKey draft.path
    let modify (_ : Origin) (entries : Entries) : Option Entries :=
      if draft.repeated then
        match entries.get? key with
        | none => some (entries.set key (.tables [draft.current]))
        | some (.tables items) => some (entries.set key (.tables (draft.current :: items)))
        | some _ => none
      else some (entries.set key (.table .header draft.current))
    change .implied modify path .header draft.finished

/-- What a table holds when its header is met: what was put into tables inside it. -/
def opened? (root : Entries) : List String → Option Entries
  | [] => some []
  | [key] =>
    match root.get? key with
    | none => some []
    | some (.table .implied entries) => some entries
    | some _ => none
  | key :: rest =>
    match root.get? key with
    | none => some []
    | some (.table _ entries) => opened? entries rest
    | some (.tables (entries :: _)) => opened? entries rest
    | some _ => none

/-- Whether a repeated header may stand here. -/
def isRepeatable (root : Entries) : List String → Bool
  | [] => true
  | [key] =>
    match root.get? key with
    | none => true
    | some (.tables _) => true
    | some _ => false
  | key :: rest =>
    match root.get? key with
    | none => true
    | some (.table _ entries) => isRepeatable entries rest
    | some (.tables (entries :: _)) => isRepeatable entries rest
    | some _ => false

def openTable (draft : Draft) (path : List String) : Option Draft := do
  let finished ← draft.close
  let current ← opened? finished path
  some { finished, path, repeated := false, current }

def openRepeated (draft : Draft) (path : List String) : Option Draft := do
  let finished ← draft.close
  if isRepeatable finished path then some { finished, path, repeated := true, current := [] }
  else none

def add (draft : Draft) (key : List String) (value : Json) : Option Draft :=
  (put (splitKey key).1 (splitKey key).2 value draft.current).map fun current =>
    { draft with current }

end Draft

/-- One line without its end: a header, a pair or nothing. -/
def readLine (draft : Draft) (chars : List Char) : Option (Draft × List Char) :=
  match skipSpaces chars with
  | [] => some (draft, [])
  | '#' :: rest => some (draft, '#' :: rest)
  | '\n' :: rest => some (draft, '\n' :: rest)
  | '\r' :: rest => some (draft, '\r' :: rest)
  | '[' :: '[' :: rest => do
    let (path, rest) ← readKey depthLimit rest
    let rest ← Json.expect "]]" rest
    let draft ← draft.openRepeated path
    some (draft, rest)
  | '[' :: rest => do
    let (path, rest) ← readKey depthLimit rest
    let rest ← Json.expect "]" rest
    let draft ← draft.openTable path
    some (draft, rest)
  | rest => do
    let ((key, value), rest) ← readPair (readValue depthLimit) rest
    let draft ← draft.add key value
    some (draft, rest)

/-- The lines of a file, one after the other. -/
def readFile (draft : Draft) (chars : List Char) : Option Draft :=
  match readLine draft chars with
  | none => none
  | some (draft, rest) =>
    match skipComment (skipSpaces rest) with
    | none => none
    | some [] => some draft
    | some rest =>
      match newline? rest with
      | some rest => if rest.length < chars.length then readFile draft rest else none
      | none => none
termination_by chars.length

/-- The table that a whole file holds; a byte order mark in front is of no account. -/
def read? (source : String) : Option Json := do
  let chars := match source.toList with
    | '\uFEFF' :: rest => rest
    | chars => chars
  let draft ← readFile Draft.start chars
  let entries ← draft.close
  some (.object (entriesJson entries))

/-- A table or a list without content. -/
def isEmpty : Json → Bool
  | .object [] => true
  | .array [] => true
  | _ => false

end FormReport.Toml
