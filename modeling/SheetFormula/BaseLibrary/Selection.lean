import SheetFormula.BaseLibrary.Basic

/-!
# Base functions on values of any kind

`CHOOSE`, which selects one of its arguments, and `TYPE`, which tells the kind of one.
-/

namespace SheetFormula

namespace BaseLibrary

/-- `CHOOSE(index; v0; v1; ...)` is the choice at the index, counted from zero. -/
def choose (c : Call) : Computation Value := do
  let index := (← argument (c.number 0)).truncate
  let choices ← argumentsFrom c 1
  match (natural? index).bind (choices[·]?) with
  | some v => pure v
  | none => refuse "CHOOSE index out of range"

/-- The code of a kind. -/
def kindCode : Kind → Nat
  | .number => 1
  | .text => 2
  | .boolean => 4

/-- `TYPE(value)` is the code of the kind of the value. -/
def type (c : Call) : Computation Value := do
  let v ← argument (c.value 0)
  pure (.number (Binary64.ofNat (kindCode v.kind)))

end BaseLibrary

end SheetFormula
