import SheetFormula.Proofs.Evaluation.Unvisited
import SheetFormula.Proofs.Expression.RoundTrip

/-!
# Canonical text means what it was written for

An expression whose tree was built by hand may hold numbers that no literal spells. What is read
from its canonical text has an arithmetic in their place, and this has the same outcome in every
environment: a formula with its numbers spelled out is evaluated as the formula itself
(`Formula.evaluate_spelledOut`). So an expression keeps its meaning when it is encoded and parsed,
and encoding what has been parsed changes nothing more (`Expression.parse_encode_meaning`).
-/

namespace SheetFormula

/-! ### The arithmetic that stands for a number -/

namespace ArithmeticOp

theorem compute?_rem_zero : rem.compute? (.zero false) (.zero false) = some .nan := rfl

theorem compute?_pow_fourHundred : pow.compute? .ten .fourHundred = some (.infinite false) := by
  decide +kernel

theorem compute?_sub_infinite :
    sub.compute? (.zero false) (.infinite false) = some (.infinite true) := rfl

end ArithmeticOp

namespace Formula

variable {σ : Type} {env : Environment σ} {token : Option CancellationToken}

/-- The value of an arithmetic between two formulas that have numbers as values. -/
theorem evaluate_arithmetic {op : ArithmeticOp} {f g : Formula} {x y z : Binary64} {s s₁ s₂ : σ}
    (hf : f.evaluate env token s = .ok (.number x) s₁)
    (hg : g.evaluate env token s₁ = .ok (.number y) s₂) (hz : op.compute? x y = some z) :
    (binary (.arithmetic op) f g).evaluate env token s = .ok (.number z) s₂ := by
  have haccept : Operator.accept (.arithmetic op) (.number x) = .ok () := rfl
  have happly : Operator.apply (.arithmetic op) (.number x) (.number y) = .ok (.number z) := by
    rw [Operator.apply, ArithmeticOp.apply, hz]
  rw [evaluate, Sequence.bind_eq_of_ok hf, haccept, Evaluation.ofResult, pure_bind,
    Sequence.bind_eq_of_ok hg, happly]
  rfl

/-- A value that is spelled out is what it was. -/
theorem evaluate_value_spelledOut (v : Value) (s : σ) :
    v.spelledOut.evaluate env token s = .ok v s := by
  have hpow : (Value.spelledOut (.number (.infinite false))).evaluate env token s =
      .ok (.number (.infinite false)) s :=
    evaluate_arithmetic rfl rfl ArithmeticOp.compute?_pow_fourHundred
  rcases v with _ | (_ | (_ | _) | _) | _
  case number.nan => exact evaluate_arithmetic rfl rfl ArithmeticOp.compute?_rem_zero
  case number.infinite.false => exact hpow
  case number.infinite.true =>
    exact evaluate_arithmetic rfl hpow ArithmeticOp.compute?_sub_infinite
  all_goals rfl

/-- **Spelling numbers out does not change the outcome.** -/
theorem evaluate_spelledOut (f : Formula) (s : σ) :
    f.spelledOut.evaluate env token s = f.evaluate env token s := by
  induction f using childInduction generalizing s with
  | node f ih =>
    by_cases hliteral : ∃ v, f = .literal v
    · obtain ⟨v, rfl⟩ := hliteral
      exact evaluate_value_spelledOut v s
    · have hnode : ∀ v, f ≠ .literal v := fun v hv => hliteral ⟨v, hv⟩
      have hchildren := children_spelledOut hnode
      refine evaluate_eq_of_entered (sameNode_spelledOut hnode) (.inl ?_) fun i g s₁ henters => ?_
      · rw [hchildren, List.length_map]
      · refine ⟨g.spelledOut, ?_, ih g (List.mem_of_getElem? henters.child) s₁⟩
        rw [hchildren, List.getElem?_map, henters.child, Option.map_some]

/-- **Spelling numbers out does not change the calls.** -/
theorem trace_spelledOut (f : Formula) (s : σ) :
    f.spelledOut.trace env token s = f.trace env token s := by
  rw [trace, trace, evaluate_spelledOut]

/-- The canonical text of a formula that can be written is parsed as the formula with its numbers
spelled out. -/
theorem Writable.parse_display {f : Formula} (h : f.Writable) {m : Nat}
    (hm : 5 + 4 * (Item.tokens f.display).length < m) : parse m f.display = .ok f.spelledOut := by
  obtain ⟨d, hf, hlexes, -⟩ := h.exists_program
  rw [hlexes.tokens_eq] at hm
  rw [← hf]
  exact parse_of_length_lt hlexes hm

end Formula

/-! ### Encoding keeps the meaning -/

namespace Expression

/-- A canonical text begins with an equals sign. -/
theorem head?_encode (e : Expression) : e.encode.toList.head? = some '=' := by
  rw [encode, String.toList_ofList]
  rfl

/-- **Encoding keeps the meaning.** Every expression whose names are identifiers, none of its calls
reserved and none of its junctions empty, is encoded as a text that is parsed under all ceilings
well above four times the number of its tokens. What is parsed has the same outcome as the
expression in every environment, whatever the state of the host: the same value or error, the same
state afterwards, and the same calls with the same arguments. And it is stable: wherever it is
parsed, its own canonical text is parsed as itself. -/
theorem parse_encode_meaning (e : Expression) (h : e.root.Writable) :
    ∃ e', (∀ m, 5 + 4 * (Item.tokens e.root.display).length < m → parse e.encode m = .ok e') ∧
      (∀ (σ : Type) (env : Environment σ) (token : Option CancellationToken) (s : σ),
        e'.root.evaluate env token s = e.root.evaluate env token s ∧
        e'.root.trace env token s = e.root.trace env token s) ∧
      (∀ m, parse e.encode m = .ok e' → parse e'.encode m = .ok e') := by
  refine ⟨⟨e.root.spelledOut⟩, fun m hm => ?_, fun σ env token s => ?_, fun m hparse => ?_⟩
  · rw [parse_encode, h.parse_display hm]
    rfl
  · exact ⟨e.root.evaluate_spelledOut s, e.root.trace_spelledOut s⟩
  · exact parse_encode_formula e.head?_encode hparse

/-- `=F((0 % 0); (0 - 10 ^ 400) * x)` is read for a call with not-a-number and a multiple of minus
infinity as its arguments. -/
theorem parse_encode_meaning_infinite :
    let e : Expression := ⟨.call "F" [.literal (.number .nan),
      .binary (.arithmetic .mul) (.literal (.number (.infinite true))) (.reference "x")]⟩
    e.root.Writable ∧ e.encode = "=F((0 % 0); (0 - 10 ^ 400) * x)" ∧
      ∃ e', parse e.encode 100 = .ok e' ∧ parse e'.encode 100 = .ok e' ∧
        ∀ (σ : Type) (env : Environment σ) (token : Option CancellationToken) (s : σ),
          e'.root.evaluate env token s = e.root.evaluate env token s ∧
          e'.root.trace env token s = e.root.trace env token s := by
  intro e
  have hx : IsIdentifier "x" := by decide +kernel
  have hwritable : e.root.Writable := ⟨by decide +kernel, rfl, trivial, ⟨trivial, hx⟩, trivial⟩
  have htokens : 5 + 4 * (Item.tokens e.root.display).length < 100 := by decide +kernel
  obtain ⟨e', hparse, hmeaning, hstable⟩ := parse_encode_meaning e hwritable
  have hparsed := hparse 100 htokens
  exact ⟨hwritable, by decide +kernel, e', hparsed, hstable 100 hparsed, hmeaning⟩

end Expression

end SheetFormula
