import SheetFormula.Formula.Canonical
import SheetFormula.Proofs.Grammar.Derivation

/-!
# How deep a formula must nest

The rules that nest in a derivation depend on the parentheses that it spends. `Formula.levelsAt`
counts those of the least deep derivation of a formula from a rule: the rules between that one and
the one to which the formula belongs, and twice so many where only a parenthesis leads from one to
the other. No derivation nests less deep (`Derivation.levelsAt_le`).
-/

namespace SheetFormula

namespace Formula

/-! ### The count -/

/-- The rules that nest in a formula which is read from the rule at `place`, if `own` of them nest
in it when it is read from the rule to which it belongs. That rule stands one place behind the
tightness; a rule behind it reaches it through a term in parentheses. -/
def levelsFrom (place tightness own : Nat) : Nat :=
  if place ≤ tightness + 1 then own + (tightness + 1 - place) else own + tightness + (5 - place)

mutual

/-- The rules that nest in a formula at its deepest place, read from the rule to which it
belongs. -/
def levels : Formula → Nat
  | .literal _ | .reference _ => 1
  | .call _ arguments => deepest arguments + 1
  | .negation operand => levelsFrom 1 operand.tightness (levels operand) + 1
  | .binary op left right =>
    max (levelsFrom (op.level.rank + 2) left.tightness (levels left))
      (levelsFrom (op.level.rank + 1) right.tightness (levels right)) + 1
  | .junction _ operands => deepest operands + 1
  | .conditional condition onTrue onFalse =>
    max (levelsFrom 1 condition.tightness (levels condition))
      (max (levelsFrom 1 onTrue.tightness (levels onTrue))
        (levelsFrom 1 onFalse.tightness (levels onFalse))) + 1

/-- The rules that nest in a list of expressions at its deepest place. -/
def deepest : List Formula → Nat
  | [] => 0
  | f :: fs => max (levelsFrom 1 f.tightness (levels f)) (deepest fs)

end

/-- **The rules that must nest** in a formula which is read from the rule at a place. -/
def levelsAt (f : Formula) (place : Nat) : Nat := levelsFrom place f.tightness f.levels

variable {f : Formula} {place : Nat}

theorem tightness_le (f : Formula) : f.tightness ≤ 3 := by
  cases f with
  | binary op _ _ =>
    rw [tightness_binary]
    cases op.level <;> decide
  | _ => exact Nat.le_refl 3

/-- At its own rule nothing is added. -/
theorem levelsAt_own (h : place = f.tightness + 1) : f.levelsAt place = f.levels := by
  rw [levelsAt, levelsFrom, if_pos (Nat.le_of_eq h)]
  omega

theorem levelsAt_binary (op : Operator) (left right : Formula) :
    (binary op left right).levelsAt (op.level.rank + 1) = (binary op left right).levels :=
  levelsAt_own (congrArg (· + 1) (tightness_binary op left right)).symm

theorem levelsAt_term (h : f.tightness = 3) : f.levelsAt Rule.term.place = f.levels :=
  levelsAt_own (by rw [h]; rfl)

/-- A looser rule nests at most one level more. -/
theorem levelsAt_le_succ (h : place < 4) : f.levelsAt place ≤ f.levelsAt (place + 1) + 1 := by
  unfold levelsAt levelsFrom
  split <;> split <;> omega

/-- A looser rule nests just one level more, unless the formula belongs to it. -/
theorem levelsAt_eq_succ (h : place < 4) (hplace : place ≠ f.tightness + 1) :
    f.levelsAt place = f.levelsAt (place + 1) + 1 := by
  unfold levelsAt levelsFrom
  split <;> split <;> omega

/-- A term in parentheses nests at most one level more than what it holds. -/
theorem levelsAt_term_le : f.levelsAt 4 ≤ f.levelsAt 1 + 1 := by
  have htight := f.tightness_le
  unfold levelsAt levelsFrom
  split <;> split <;> omega

/-- A term in parentheses nests just one level more than what it holds, if that is no term. -/
theorem levelsAt_term_eq (h : f.tightness < 3) : f.levelsAt 4 = f.levelsAt 1 + 1 := by
  unfold levelsAt levelsFrom
  split <;> split <;> omega

end Formula

/-! ### No derivation nests less deep -/

mutual

/-- **A derivation nests as deep as its formula must.** -/
theorem Derivation.levelsAt_le :
    {r : Rule} → (d : Derivation r) → d.formula.levelsAt r.place ≤ d.levels
  | _, .program body => by
    have hbody : body.formula.levelsAt 1 ≤ body.levels := body.levelsAt_le
    exact Nat.le_trans (Formula.levelsAt_le_succ (by decide)) (Nat.succ_le_succ hbody)
  | .level l, .operand left => by
    have hleft := left.levelsAt_le
    rw [Level.place_tighter] at hleft
    have hrank : l.rank + 1 < 4 := by cases l <;> decide
    exact Nat.le_trans (Formula.levelsAt_le_succ hrank) (Nat.succ_le_succ hleft)
  | .level l, .binary op hsymbol left right => by
    have hl := Operator.level?_symbol_iff.mp hsymbol
    have hleft : left.formula.levelsAt (op.level.rank + 2) ≤ left.levels := by
      rw [hl, ← Level.place_tighter]
      exact left.levelsAt_le
    have hright : right.formula.levelsAt (op.level.rank + 1) ≤ right.levels := by
      rw [hl]
      exact right.levelsAt_le
    -- the formula belongs to this rule, so only its operands are read from other ones
    have hown := Formula.levelsAt_binary op left.formula right.formula
    rw [hl] at hown
    refine Nat.le_trans (Nat.le_of_eq hown) ?_
    simp only [Formula.levelsAt] at hleft hright
    simp only [Derivation.levels, Formula.levels]
    omega
  | _, .group inner => by
    have hinner : inner.formula.levelsAt 1 ≤ inner.levels := inner.levelsAt_le
    exact Nat.le_trans Formula.levelsAt_term_le (Nat.succ_le_succ hinner)
  | _, .negative _ | _, .number _ | _, .text _ | _, .reference _ | _, .constant _
  | _, .bareCall _ _ => Nat.le_of_eq (Formula.levelsAt_term rfl)
  | _, .conditional condition onTrue onFalse => by
    have hcondition : condition.formula.levelsAt 1 ≤ condition.levels := condition.levelsAt_le
    have htrue : onTrue.formula.levelsAt 1 ≤ onTrue.levels := onTrue.levelsAt_le
    have hfalse : onFalse.formula.levelsAt 1 ≤ onFalse.levels := onFalse.levelsAt_le
    refine Nat.le_trans (Nat.le_of_eq (Formula.levelsAt_term rfl)) ?_
    simp only [Formula.levelsAt] at hcondition htrue hfalse
    simp only [Derivation.formula, Derivation.levels, Formula.levels]
    omega
  | _, .negation operand => by
    have hoperand : operand.formula.levelsAt 1 ≤ operand.levels := operand.levelsAt_le
    exact Nat.le_trans (Nat.le_of_eq (Formula.levelsAt_term rfl)) (Nat.succ_le_succ hoperand)
  | _, .junction _ operands | _, .call _ _ operands =>
    Nat.le_trans (Nat.le_of_eq (Formula.levelsAt_term rfl)) (Nat.succ_le_succ operands.deepest_le)

theorem Operands.deepest_le : (os : Operands) → Formula.deepest os.formulas ≤ os.levels
  | .last operand => by
    have hoperand : operand.formula.levelsAt 1 ≤ operand.levels := operand.levelsAt_le
    simp only [Formula.levelsAt] at hoperand
    simp only [Operands.formulas, Operands.levels, Formula.deepest]
    omega
  | .more operand others => by
    have hoperand : operand.formula.levelsAt 1 ≤ operand.levels := operand.levelsAt_le
    have hothers := others.deepest_le
    simp only [Formula.levelsAt] at hoperand
    simp only [Operands.formulas, Operands.levels, Formula.deepest]
    omega

end

end SheetFormula
