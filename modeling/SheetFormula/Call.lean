import SheetFormula.Value

/-!
# Calls of functions

What a function learns when a formula calls it: the name it was called by, its arguments, which
have been evaluated, and the cancellation token of the evaluation, if it has one. A function reads
its arguments through projections that name the argument at fault when they fail.

A function of the host program may change the state of the host, of type `σ` throughout, and may
fail. What it changed before it failed stays changed.
-/

namespace SheetFormula

/-- A handle by which the host may ask running functions to stop. Whether it has been used for
that is known to the host alone. -/
structure CancellationToken where
  id : Nat
  deriving DecidableEq

/-- The record of one **call**. -/
structure Call where
  /-- The name the function was called by. -/
  name : String
  /-- The evaluated arguments, from left to right. -/
  values : List Value
  /-- The cancellation token of the evaluation. -/
  cancellation : Option CancellationToken
  deriving DecidableEq

/-- Why a function refuses its arguments. Arguments are counted from zero. -/
inductive CallError where
  /-- There are too few arguments. -/
  | missingArgument (index : Nat)
  /-- An argument has not the kind that is needed. -/
  | wrongKind (index : Nat) (mismatch : KindMismatch)
  /-- A rule of this one function is broken. -/
  | invalid (reason : String)
  deriving DecidableEq

namespace CallError

/-- The wording of a call error. -/
def message : CallError → String
  | missingArgument index => "missing argument " ++ toString index
  | wrongKind index mismatch => "argument " ++ toString index ++ ": " ++ mismatch.message
  | invalid reason => reason

end CallError

/-- Why a function failed: it refused its arguments, or it says so in its own words. -/
inductive Failure where
  | call (e : CallError)
  | other (message : String)
  deriving DecidableEq

namespace Failure

/-- The wording of a failure. -/
def message : Failure → String
  | call e => e.message
  | other message => message

end Failure

/-- A function of the host. -/
abbrev NativeFunction (σ : Type) := Call → EStateM Failure σ Value

namespace Call

/-! ### Arguments -/

/-- The argument at an index. -/
def value (c : Call) (index : Nat) : Except CallError Value :=
  match c.values[index]? with
  | some v => .ok v
  | none => .error (.missingArgument index)

/-- The argument at an index in a projection. -/
def project {α : Type} (projection : Value → Except KindMismatch α) (c : Call) (index : Nat) :
    Except CallError α := do
  let v ← c.value index
  (projection v).mapError (.wrongKind index)

/-- The number that the argument at an index is. -/
def number (c : Call) (index : Nat) : Except CallError Binary64 := c.project Value.asNumber index

/-- The text that the argument at an index is. -/
def text (c : Call) (index : Nat) : Except CallError String := c.project Value.asText index

/-- The boolean that the argument at an index is. -/
def boolean (c : Call) (index : Nat) : Except CallError Bool := c.project Value.asBoolean index

/-- The number that the argument at an index is, or the default if there are not so many. -/
def numberOr (c : Call) (index : Nat) (default : Binary64) : Except CallError Binary64 :=
  if c.values.length ≤ index then .ok default else c.number index

/-- Whether all values, counted from `index`, have a kind; the first that has not is at fault. -/
def expectKind (kind : Kind) : (index : Nat) → List Value → Except CallError Unit
  | _, [] => .ok ()
  | index, v :: vs =>
    if v.kind = kind then expectKind kind (index + 1) vs
    else .error (.wrongKind index ⟨kind, v.kind⟩)

/-- Whether all arguments from an index on have a kind. -/
def expectRest (c : Call) (start : Nat) (kind : Kind) : Except CallError Unit :=
  expectKind kind start (c.values.drop start)

end Call

end SheetFormula
