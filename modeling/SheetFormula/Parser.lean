import SheetFormula.Token.Scan

/-!
# The parser's state and its moves

A parser walks over the items of a formula. It holds at most one token that it has looked at and
not yet taken, the items it has not looked at, and two counters of the nesting of grammar rules.
All moves are made of one, `Parser.pull`, which scans the next item: a place where no token can be
read is a syntax error when it is scanned, and is then behind the parser.

A rule is entered through `Parser.descend`, which counts the nesting and refuses to go as deep as
the ceiling. What a rule changed before it failed stays changed, so a failed rule may be followed
by others.
-/

namespace SheetFormula

/-- A token and the byte where it starts. -/
structure Located where
  token : Token
  start : Nat
  deriving DecidableEq

/-- The state of a **parser**. -/
structure Parser where
  /-- The token that has been looked at and not taken. -/
  ahead : Option Located
  /-- The items that have not been scanned. -/
  pending : List Item
  /-- The byte where the last scanned item stops; the length of the source once its end has been
  met. -/
  reached : Nat
  /-- The bytes of the source. -/
  length : Nat
  /-- The number of rules that have been entered and not left, and of those that were refused. It
  is not held in a word: that it grows beyond one, after `2⁶⁴` refusals, is left out. -/
  depth : Nat
  /-- The greatest depth at which a rule has been run. -/
  deepest : Nat
  deriving DecidableEq

/-- An action of a parser: it moves the parser on and yields a result or a syntax error. -/
abbrev Parse := EStateM SyntaxError Parser

namespace Parser

/-- The parser at the start of a source. -/
def start (source : String) : Parser where
  ahead := none
  pending := Item.list source
  reached := 0
  length := Text.byteLength source.toList
  depth := 0
  deepest := 0

/-- Where the parser stands: at the token it has looked at, or else behind the last item that it
scanned. -/
def position (p : Parser) : Nat :=
  match p.ahead with
  | some t => t.start
  | none => p.reached

/-! ### Looking and taking -/

/-- Scans the next item, if there is one. -/
def pull : Parse (Option Located) := fun p =>
  match p.pending with
  | [] => .ok none { p with reached := p.length }
  | item :: items =>
    match item.reading with
    | .token token =>
      .ok (some ⟨token, item.start⟩) { p with pending := items, reached := item.stop }
    | .fault fault =>
      .error ⟨item.start, .lexical fault⟩ { p with pending := items, reached := item.stop }

/-- The next token, which stays in place; nothing at the end of the source. -/
def peek : Parse (Option Token) := do
  match (← get).ahead with
  | some t => pure (some t.token)
  | none =>
    let found ← pull
    modify fun p => { p with ahead := found }
    pure (found.map Located.token)

/-- Whether there is a next token and it equals the given one. -/
def peekIs (token : Token) : Parse Bool := do
  return (← peek).any fun next => next.equals token

/-- Takes the next token, of which there must be one. -/
def next : Parse Located := do
  match (← get).ahead with
  | some t =>
    modify fun p => { p with ahead := none }
    pure t
  | none =>
    match ← pull with
    | some t => pure t
    | none => throw ⟨(← get).length, .unexpectedEnd⟩

/-- Takes the next token, which must equal the given one; `wanted` is what a message calls it. -/
def expect (token : Token) (wanted : String) : Parse Unit := do
  if ← peekIs token then
    modify fun p => { p with ahead := none }
  else
    let p ← get
    throw ⟨(p.ahead.map Located.start).getD p.length, .expected wanted⟩

/-- Takes the next token, which must be the given symbol. -/
def expectSymbol (s : Symbol) : Parse Unit := expect (.symbol s) ("'" ++ s.text ++ "'")

/-! ### Nesting -/

/-- Refuses to run a rule one level deeper. The depth stays raised. -/
def refuse {α : Type} : Parse α := fun p =>
  .error ⟨p.position, .maximumDepth⟩ { p with depth := p.depth + 1 }

/-- Runs a rule one level deeper, unless that is the level of the ceiling or above it. The depth
is lowered again when the rule is left, by a result or by an error. -/
def descend {α : Type} (ceiling : Nat) (rule : Parse α) : Parse α := fun p =>
  if ceiling ≤ p.depth + 1 then refuse p
  else
    match rule { p with depth := p.depth + 1, deepest := max p.deepest (p.depth + 1) } with
    | .ok result q => .ok result { q with depth := q.depth - 1 }
    | .error e q => .error e { q with depth := q.depth - 1 }

end Parser

end SheetFormula
