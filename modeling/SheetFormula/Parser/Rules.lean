import SheetFormula.Formula
import SheetFormula.Parser

/-!
# The grammar rules

The grammar of formulas, read from left to right with one token of lookahead. A rule for each
level of operators reads an operand of the next tighter level and, if an operator of its own level
follows, that operator and another run of itself, so that operators group to the right. Terms are
literals, references, calls, the six reserved forms and parenthesised expressions:

* `program := expression END`
* `expression := relational`
* `relational := additive (("=" | "<>" | ">" | ">=" | "<" | "<=") relational)?`
* `additive := multiplicative (("+" | "-" | "&") additive)?`
* `multiplicative := term (("*" | "/" | "^" | "%") multiplicative)?`
* `term := "(" expression ")" | "-" NUMBER | NUMBER | TEXT | NAME | form | NAME "(" arguments`
* `form := "IF" "(" expression ";" expression ";" expression ")" | "TRUE" "(" ")"`
  `| "FALSE" "(" ")" | "NOT" "(" expression ")" | "AND" "(" operands | "OR" "(" operands`
* `arguments := ")" | operands`, `operands := expression (";" expression)* ")"`

A reserved name is an ordinary reference unless a parenthesis follows it.

Each rule is given what it does for the rules below it as a parameter. `Rule.run` ties the knot by
recursion on the number of levels that the ceiling leaves, and `Rule.parse` starts it with the
number that the depth of the parser calls for.
-/

namespace SheetFormula

/-- The rules that are entered by name. -/
inductive Rule where
  | program
  | level (l : Level)
  | term
  deriving DecidableEq

namespace Rule

/-- The rule for whole expressions. -/
def expression : Rule := .level .relational

end Rule

namespace Level

/-- The rule for the operands on the left of the operators of a level. -/
def tighter : Level → Rule
  | relational => .level .additive
  | additive => .level .multiplicative
  | multiplicative => .term

end Level

/-- The constructs whose names are reserved before a parenthesis. -/
inductive Form where
  | conditional
  | constant (b : Bool)
  | negation
  | junction (kind : Junction)
  deriving DecidableEq

namespace Form

/-- The form with the given name. -/
def ofName? (name : String) : Option Form :=
  if name = "IF" then some .conditional
  else if name = "TRUE" then some (.constant true)
  else if name = "FALSE" then some (.constant false)
  else if name = "NOT" then some .negation
  else if name = "AND" then some (.junction .and)
  else if name = "OR" then some (.junction .or)
  else none

end Form

namespace Parser

/-! ### The rules over their operands -/

/-- Reads `(";" expression)*`, at most `fuel` times. -/
def moreOperands (operand : Parse Formula) : (fuel : Nat) → Parse (List Formula)
  | 0 => pure []
  | fuel + 1 => do
    if ← peekIs (.symbol .semicolon) then
      let _ ← next
      let f ← operand
      let fs ← moreOperands operand fuel
      pure (f :: fs)
    else
      pure []

/-- Reads `expression (";" expression)* ")"`. Every repetition takes a token, so there are no more
of them than tokens are left. -/
def operands (operand : Parse Formula) : Parse (List Formula) := do
  let f ← operand
  let fs ← moreOperands operand ((← get).pending.length + 2)
  expectSymbol .rightParen
  pure (f :: fs)

/-- Reads the number after a minus sign that begins a term. -/
def negativeNumber : Parse Formula := do
  match ← peek with
  | some (.number x) =>
    let _ ← next
    pure (.literal (.number x.neg))
  | _ => throw ⟨(← get).position, .expectedNumber⟩

/-- Reads what follows the opening parenthesis of a reserved form. -/
def form (operand : Parse Formula) : Form → Parse Formula
  | .conditional => do
    let condition ← operand
    expectSymbol .semicolon
    let onTrue ← operand
    expectSymbol .semicolon
    let onFalse ← operand
    expectSymbol .rightParen
    pure (.conditional condition onTrue onFalse)
  | .constant b => do
    expectSymbol .rightParen
    pure (.literal (.boolean b))
  | .negation => do
    let f ← operand
    expectSymbol .rightParen
    pure (.negation f)
  | .junction kind => do
    let fs ← operands operand
    pure (.junction kind fs)

/-- Reads what follows the opening parenthesis of a call. -/
def arguments (operand : Parse Formula) : Parse (List Formula) := do
  if ← peekIs (.symbol .rightParen) then
    let _ ← next
    pure []
  else
    operands operand

/-- Reads a term, whose nested expressions are read by `operand`. -/
def term (operand : Parse Formula) : Parse Formula := do
  let t ← next
  match t.token with
  | .symbol .leftParen =>
    let f ← operand
    expectSymbol .rightParen
    pure f
  | .symbol .minus => negativeNumber
  | .name name =>
    if ← peekIs (.symbol .leftParen) then
      let _ ← next
      match Form.ofName? name with
      | some reserved => form operand reserved
      | none =>
        let fs ← arguments operand
        pure (.call name fs)
    else
      pure (.reference name)
  | .text s => pure (.literal (.text s))
  | .number x => pure (.literal (.number x))
  | token => throw ⟨t.start, .unexpectedToken token⟩

/-- The operator of the given level that comes next, if one does. -/
def peekOperator (l : Level) : Parse (Option Operator) := do
  return (← peek).bind fun token => (Operator.ofToken? token).filter (·.level = l)

/-- Reads an operand and, after an operator of the level, a right side. -/
def chain (l : Level) (leftSide rightSide : Parse Formula) : Parse Formula := do
  let left ← leftSide
  match ← peekOperator l with
  | none => pure left
  | some op =>
    let _ ← next
    let right ← rightSide
    pure (.binary op left right)

/-- Reads an expression that the end of the source must follow. A token that follows it is
taken. -/
def program (expression : Parse Formula) : Parse Formula := do
  let f ← expression
  let _ ← peek
  match (← get).ahead with
  | none => pure f
  | some t =>
    modify fun p => { p with ahead := none }
    throw ⟨t.start, .trailingToken t.token⟩

end Parser

namespace Rule

/-! ### The rules together -/

/-- A rule over the way in which the rules below it are entered. -/
def body (enter : Rule → Parse Formula) : Rule → Parse Formula
  | program => Parser.program (enter expression)
  | level l => Parser.chain l (enter l.tighter) (enter (.level l))
  | term => Parser.term (enter expression)

/-- Runs a rule under a ceiling. The `fuel` counts the levels of rules that may still be run; one
more than the ceiling is above the depth is always enough. -/
def run (ceiling : Nat) : (fuel : Nat) → Rule → Parse Formula
  | 0, _ => Parser.refuse
  | fuel + 1, r => body (fun below => Parser.descend ceiling (run ceiling fuel below)) r

/-- The fuel that a rule needs under a ceiling, by the depth of the parser. -/
def fuelAt (ceiling depth : Nat) : Nat := ceiling - depth + 1

/-- Reads by a rule, without counting it as a level of nesting. -/
def parse (ceiling : Nat) (r : Rule) : Parse Formula := fun p =>
  run ceiling (fuelAt ceiling p.depth) r p

/-- Reads `expression (";" expression)* ")"`, without counting it as a level of nesting. -/
def parseOperands (ceiling : Nat) : Parse (List Formula) := fun p =>
  Parser.operands (Parser.descend ceiling (run ceiling (fuelAt ceiling p.depth) expression)) p

end Rule

namespace Formula

/-- The formula that a source is, its rules nesting less deep than the ceiling. -/
def parse (ceiling : Nat) (source : String) : Except SyntaxError Formula :=
  match Parser.descend ceiling (Rule.program.parse ceiling) (Parser.start source) with
  | .ok f _ => .ok f
  | .error e _ => .error e

end Formula

end SheetFormula
