import SheetFormula.Proofs.Evaluation.CallOrder

/-!
# Formulas that end alike

A construct refuses an operand whose value is not of the kind that it wants, and the error says
which construct or which side of it the operand stood at. Formulas that put one operand into
different constructs therefore have different errors, though nothing else tells them apart.

Two formulas **end alike** when this is all the difference there is (`Formula.EndAlike`): they have
one value, or they fail at one operand, which both come to in one state, with its own error or with
errors that refuse its value. They leave one state in any case, so they make the same calls
(`Formula.EndAlike.trace_eq`).
-/

namespace SheetFormula

/-- An error **refuses** a value of the kind `found` where one of the kind `wanted` is needed. -/
inductive RuntimeError.Refuses : (wanted found : Kind) → RuntimeError → Prop
  /-- A construct needs a boolean. -/
  | expectedBoolean (construct : Construct) (found : Kind) :
      Refuses .boolean found (.expectedBoolean construct found)
  /-- A side of a concatenation needs a text. -/
  | concatOperand (side : Side) (found : Kind) : Refuses .text found (.concatOperand side found)

namespace Formula

open SheetFormula.Evaluation

variable {σ : Type}

/-- From a state two formulas **end alike**: they have one value of the kind that is wanted, or they
fail at an operand that stands at corresponding places of them and that both come to. -/
inductive EndAlike (env : Environment σ) (token : Option CancellationToken) (wanted : Kind)
    (corresponding : Position → Position → Prop) (f g : Formula) (s : σ) : Prop
  /-- Both have the same value and leave the same state. -/
  | value {v : Value} {s' : σ} (kind : v.kind = wanted)
      (left : f.evaluate env token s = .ok v s') (right : g.evaluate env token s = .ok v s')
  /-- Both have the error of an operand, in the state in which it fails. -/
  | failed {p q : Position} {operand : Formula} {e : RuntimeError} {s₁ s' : σ}
      (places : corresponding p q) (visits : f.Visits env token s p operand s₁)
      (visits' : g.Visits env token s q operand s₁)
      (error : operand.evaluate env token s₁ = .error e s')
      (left : f.evaluate env token s = .error e s') (right : g.evaluate env token s = .error e s')
  /-- Both refuse the value of an operand, in the state in which it has been evaluated. -/
  | refused {p q : Position} {operand : Formula} {v : Value} {e e' : RuntimeError} {s₁ s' : σ}
      (places : corresponding p q) (visits : f.Visits env token s p operand s₁)
      (visits' : g.Visits env token s q operand s₁)
      (value : operand.evaluate env token s₁ = .ok v s') (kind : v.kind ≠ wanted)
      (refuses : e.Refuses wanted v.kind) (refuses' : e'.Refuses wanted v.kind)
      (left : f.evaluate env token s = .error e s') (right : g.evaluate env token s = .error e' s')

variable {env : Environment σ} {token : Option CancellationToken} {wanted : Kind}
  {corresponding : Position → Position → Prop} {f g : Formula} {s : σ}

/-- The calls on record are those of an outcome, which leaves them in its state. -/
theorem recordOf_congr {r r' : EStateM.Result RuntimeError (σ × List Call) Value}
    {t : σ × List Call} (h : (∃ v, r = .ok v t) ∨ ∃ e, r = .error e t)
    (h' : (∃ v, r' = .ok v t) ∨ ∃ e, r' = .error e t) : recordOf r = recordOf r' := by
  rcases h with ⟨v, rfl⟩ | ⟨e, rfl⟩ <;> rcases h' with ⟨v', rfl⟩ | ⟨e', rfl⟩ <;> rfl

/-- **Formulas that end alike on the record make the same calls.** -/
theorem EndAlike.trace_eq
    (h : EndAlike env.recorded token wanted corresponding f g (s, [])) :
    f.trace env token s = g.trace env token s := by
  refine congrArg List.reverse ?_
  cases h with
  | value _ left right => exact recordOf_congr (.inl ⟨_, left⟩) (.inl ⟨_, right⟩)
  | failed _ _ _ _ left right | refused _ _ _ _ _ _ _ left right =>
    exact recordOf_congr (.inr ⟨_, left⟩) (.inr ⟨_, right⟩)

end Formula

end SheetFormula
