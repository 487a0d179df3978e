import SheetFormula.Binary64.Decimal

/-!
# Values

A formula computes with three **kinds** of values: texts, numbers and booleans. There is no empty
and no composite value, and no kind turns into another by itself: who needs a kind projects to
it, and the projection of a value of another kind fails with a `KindMismatch`.
-/

namespace SheetFormula

/-- The kinds of values. -/
inductive Kind where
  | text
  | number
  | boolean
  deriving DecidableEq

namespace Kind

/-- The word for a kind in messages. -/
def label : Kind → String
  | text => "string"
  | number => "number"
  | boolean => "boolean"

end Kind

/-- A **value** of a formula. -/
inductive Value where
  | text (s : String)
  | number (x : Binary64)
  | boolean (b : Bool)
  deriving DecidableEq

/-- What a projection reports when the value has not the kind that was asked for. -/
structure KindMismatch where
  expected : Kind
  found : Kind
  deriving DecidableEq

namespace KindMismatch

/-- The wording of a mismatch. -/
def message (e : KindMismatch) : String :=
  "expected " ++ e.expected.label ++ " value, found " ++ e.found.label

end KindMismatch

namespace Value

/-- The kind of a value. -/
def kind : Value → Kind
  | text _ => .text
  | number _ => .number
  | boolean _ => .boolean

/-- The text that the value is. -/
def asText : Value → Except KindMismatch String
  | text s => .ok s
  | v => .error ⟨.text, v.kind⟩

/-- The number that the value is. -/
def asNumber : Value → Except KindMismatch Binary64
  | number x => .ok x
  | v => .error ⟨.number, v.kind⟩

/-- The boolean that the value is. -/
def asBoolean : Value → Except KindMismatch Bool
  | boolean b => .ok b
  | v => .error ⟨.boolean, v.kind⟩

/-- Equality of values as formulas see it: numbers are compared numerically, and values of
different kinds are unequal. -/
def equals : Value → Value → Bool
  | text a, text b => a == b
  | number a, number b => a.equals b
  | boolean a, boolean b => a == b
  | _, _ => false

/-- The value as plain text. -/
def display : Value → String
  | text s => s
  | number x => x.format
  | boolean b => if b then "TRUE" else "FALSE"

end Value

end SheetFormula
