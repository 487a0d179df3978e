import SheetFormula.Call
import SheetFormula.Text.Bytes

/-!
# Computations of base functions

A base function computes a value from its call alone. It may refuse its arguments, which is an
answer to the caller. Apart from that it could only **break off**, where a piece is taken of a text
or of the arguments that is not there, or a position leaves the words of 64 bits that positions are
held in. Both are answers of a computation here, so that breaking off can be shown not to happen.
-/

namespace SheetFormula

namespace BaseLibrary

/-- Why a computation yields no value. -/
inductive Fault where
  /-- The arguments are refused. -/
  | refused (e : CallError)
  /-- A piece was taken that is not there, or a position left its words. -/
  | outOfRange
  deriving DecidableEq

/-- A computation that may fail. -/
abbrev Computation := Except Fault

/-- What a projection of an argument yields, as a computation. -/
def argument {α : Type} : Except CallError α → Computation α
  | .ok a => .ok a
  | .error e => .error (.refused e)

/-- A piece that must be there. -/
def present {α : Type} : Option α → Computation α
  | some a => .ok a
  | none => .error .outOfRange

/-- Refuses the arguments for a reason of the function's own. -/
def refuse {α : Type} (reason : String) : Computation α := .error (.refused (.invalid reason))

/-! ### Words -/

/-- A position, which must fit a word. -/
def inWord (n : Nat) : Computation Nat := if n < Word.limit then .ok n else .error .outOfRange

/-- A position moved on, no further than words reach. -/
def advanced (position distance : Nat) : Nat := min (position + distance) (Word.limit - 1)

/-- The distance of a position counted from one from the start, as a signed word: what would lie
below the least one stays there. -/
def offset (position : Int) : Int := Word.saturated (position - 1)

/-- A signed word as a count or position; the negative ones become zero. -/
def clamped (n : Int) : Nat := n.toNat

/-- A signed word as a position, if it is not negative. -/
def natural? (n : Int) : Option Nat := if 0 ≤ n then some (clamped n) else none

/-! ### Arguments -/

/-- The arguments from an index on, of which the index must not be beyond the end. -/
def argumentsFrom (c : Call) (start : Nat) : Computation (List Value) :=
  if start ≤ c.values.length then .ok (c.values.drop start) else .error .outOfRange

/-- The count that an argument gives, with its default; a negative one is refused. -/
def count (c : Call) (index : Nat) (default : Binary64) : Computation Nat := do
  let n := (← argument (c.numberOr index default)).truncate
  if n < 0 then refuse (c.name ++ " count must not be negative") else pure (clamped n)

/-- The piece of a text between two positions, which must be boundaries and in order. -/
def piece (cs : List Char) (start stop : Nat) : Computation Value := do
  let cut ← present (Text.slice? cs start stop)
  pure (.text (String.ofList cut))

end BaseLibrary

end SheetFormula
