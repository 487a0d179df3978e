import SheetFormula.Parser.Rules
import SheetFormula.Proofs.Formula.Position
import SheetFormula.Proofs.Token.ReadBack

/-!
# Numbers that are spelled out

No literal spells not-a-number or an infinity. The canonical text has an arithmetic in their place,
so a formula that holds such numbers is read from its text as another one, with these numbers
**spelled out** (`Formula.spelledOut`). It differs in its literals alone, and formulas that can be
spelled without it stay as they are (`Formula.Spellable.spelledOut_eq`).
-/

namespace SheetFormula

/-! ### Formulas that can be spelled -/

/-- Whether a value can be spelled: a number must be finite. -/
def Value.Spellable : Value → Prop
  | .number x => x.isFinite = true
  | .text _ | .boolean _ => True

namespace Formula

mutual

/-- Whether a formula can be **spelled**: its names are identifiers, no call has a reserved name, no
junction lacks operands, and its numbers are finite. -/
def Spellable : Formula → Prop
  | .literal v => v.Spellable
  | .reference name => IsIdentifier name
  | .call name arguments =>
    IsIdentifier name ∧ Form.ofName? name = none ∧ AllSpellable arguments
  | .negation operand => Spellable operand
  | .binary _ left right => Spellable left ∧ Spellable right
  | .junction _ operands => operands ≠ [] ∧ AllSpellable operands
  | .conditional condition onTrue onFalse =>
    Spellable condition ∧ Spellable onTrue ∧ Spellable onFalse

/-- Whether formulas can be spelled. -/
def AllSpellable : List Formula → Prop
  | [] => True
  | f :: fs => Spellable f ∧ AllSpellable fs

end

mutual

/-- Whether a formula can be **written**: as if it could be spelled, but for its numbers, which may
be any. -/
def Writable : Formula → Prop
  | .literal _ => True
  | .reference name => IsIdentifier name
  | .call name arguments =>
    IsIdentifier name ∧ Form.ofName? name = none ∧ AllWritable arguments
  | .negation operand => Writable operand
  | .binary _ left right => Writable left ∧ Writable right
  | .junction _ operands => operands ≠ [] ∧ AllWritable operands
  | .conditional condition onTrue onFalse =>
    Writable condition ∧ Writable onTrue ∧ Writable onFalse

/-- Whether formulas can be written. -/
def AllWritable : List Formula → Prop
  | [] => True
  | f :: fs => Writable f ∧ AllWritable fs

end

mutual

theorem Spellable.writable : (f : Formula) → f.Spellable → f.Writable
  | .literal _, _ => trivial
  | .reference _, h => h
  | .call _ arguments, h => ⟨h.1, h.2.1, AllSpellable.allWritable arguments h.2.2⟩
  | .negation operand, h => Spellable.writable operand h
  | .binary _ left right, h => ⟨Spellable.writable left h.1, Spellable.writable right h.2⟩
  | .junction _ operands, h => ⟨h.1, AllSpellable.allWritable operands h.2⟩
  | .conditional condition onTrue onFalse, h =>
    ⟨Spellable.writable condition h.1, Spellable.writable onTrue h.2.1,
      Spellable.writable onFalse h.2.2⟩

theorem AllSpellable.allWritable : (fs : List Formula) → AllSpellable fs → AllWritable fs
  | [], _ => trivial
  | f :: fs, h => ⟨Spellable.writable f h.1, AllSpellable.allWritable fs h.2⟩

end

end Formula

/-! ### Spelling numbers out -/

namespace Binary64

/-- The number ten. -/
def ten : Binary64 := .finite false (10 * unitsPerOne) (by decide +kernel)

/-- The number four hundred. -/
def fourHundred : Binary64 := .finite false (400 * unitsPerOne) (by decide +kernel)

end Binary64

/-- A value with a number that no literal spells **spelled out**. -/
def Value.spelledOut : Value → Formula
  | .number .nan =>
    .binary (.arithmetic .rem) (.literal (.number (.zero false))) (.literal (.number (.zero false)))
  | .number (.infinite false) =>
    .binary (.arithmetic .pow) (.literal (.number .ten)) (.literal (.number .fourHundred))
  | .number (.infinite true) =>
    .binary (.arithmetic .sub) (.literal (.number (.zero false)))
      (.binary (.arithmetic .pow) (.literal (.number .ten)) (.literal (.number .fourHundred)))
  | v => .literal v

theorem Value.spelledOut_of_spellable {v : Value} (h : v.Spellable) :
    v.spelledOut = .literal v := by
  rcases v with s | (_ | _ | _) | b
  case number.nan | number.infinite => cases h
  all_goals rfl

namespace Formula

mutual

/-- A formula with the numbers that no literal spells **spelled out**. -/
def spelledOut : Formula → Formula
  | .literal v => v.spelledOut
  | .reference name => .reference name
  | .call name arguments => .call name (allSpelledOut arguments)
  | .negation operand => .negation (spelledOut operand)
  | .binary op left right => .binary op (spelledOut left) (spelledOut right)
  | .junction kind operands => .junction kind (allSpelledOut operands)
  | .conditional condition onTrue onFalse =>
    .conditional (spelledOut condition) (spelledOut onTrue) (spelledOut onFalse)

/-- Formulas with the numbers that no literal spells spelled out. -/
def allSpelledOut : List Formula → List Formula
  | [] => []
  | f :: fs => spelledOut f :: allSpelledOut fs

end

theorem allSpelledOut_eq_map (fs : List Formula) : allSpelledOut fs = fs.map spelledOut := by
  induction fs with
  | nil => rfl
  | cons f fs ih => rw [allSpelledOut, ih, List.map_cons]

mutual

/-- **What can be spelled needs no spelling out.** -/
theorem Spellable.spelledOut_eq : (f : Formula) → f.Spellable → f.spelledOut = f
  | .literal _, h => Value.spelledOut_of_spellable h
  | .reference _, _ => rfl
  | .call name arguments, h =>
    congrArg (Formula.call name) (AllSpellable.allSpelledOut_eq arguments h.2.2)
  | .negation operand, h => congrArg Formula.negation (Spellable.spelledOut_eq operand h)
  | .binary op left right, h =>
    congrArg₂ (Formula.binary op) (Spellable.spelledOut_eq left h.1)
      (Spellable.spelledOut_eq right h.2)
  | .junction kind operands, h =>
    congrArg (Formula.junction kind) (AllSpellable.allSpelledOut_eq operands h.2)
  | .conditional condition onTrue onFalse, h => by
    rw [spelledOut, Spellable.spelledOut_eq condition h.1, Spellable.spelledOut_eq onTrue h.2.1,
      Spellable.spelledOut_eq onFalse h.2.2]

theorem AllSpellable.allSpelledOut_eq :
    (fs : List Formula) → AllSpellable fs → allSpelledOut fs = fs
  | [], _ => rfl
  | f :: fs, h =>
    congrArg₂ List.cons (Spellable.spelledOut_eq f h.1) (AllSpellable.allSpelledOut_eq fs h.2)

end

variable {f : Formula}

/-- The node at the root stays as it is, unless it is a literal. -/
theorem sameNode_spelledOut (h : ∀ v, f ≠ .literal v) : SameNode f f.spelledOut := by
  cases f with
  | literal v => exact absurd rfl (h v)
  | _ => constructor

theorem children_spelledOut (h : ∀ v, f ≠ .literal v) :
    f.spelledOut.children = f.children.map spelledOut := by
  cases f with
  | literal v => exact absurd rfl (h v)
  | call _ fs | junction _ fs => exact allSpelledOut_eq_map fs
  | reference _ | negation _ | binary _ _ _ | conditional _ _ _ => rfl

end Formula

end SheetFormula
