import SheetFormula.Proofs.Evaluation.EndAlike

/-!
# Laws of conjunction and disjunction

The operands of a junction are evaluated in two parts when the list of them is cut in two: the
second part is come to if the first one turns out neutral (`Formula.evaluateJunction_append`). A
junction among the operands of a junction of its kind does just what its operands would do in its
place, so it may be dissolved (`Formula.evaluateJunction_flatten`).

The negation of a junction goes through its operands as far as the other junction goes through
their negations, for an operand is neutral for the one just if its negation is neutral for the other
(`Formula.EntersAmong.negated`). So both laws of De Morgan hold of everything that can be observed
but the name of the construct in an error (`Formula.endAlike_deMorgan`).
-/

namespace SheetFormula

namespace Junction

/-- The other junction. -/
def dual : Junction → Junction
  | and => or
  | or => and

theorem neutral_dual (kind : Junction) : kind.dual.neutral = !kind.neutral := by
  cases kind <;> rfl

end Junction

namespace Formula

open SheetFormula.Evaluation SheetFormula.Sequence

variable {σ : Type} {env : Environment σ} {token : Option CancellationToken} {kind : Junction}
  {f : Formula} {fs : List Formula} {s s' s₁ : σ} {i : Nat} {v : Value}

/-! ### Junctions within junctions -/

/-- **Operands in two parts**: the second part decides where the first one is neutral. -/
theorem evaluateJunction_append (env : Environment σ) (token : Option CancellationToken)
    (kind : Junction) (fs gs : List Formula) :
    evaluateJunction env token kind (fs ++ gs) =
      evaluateJunction env token kind fs >>= fun v =>
        if v = .boolean kind.neutral then evaluateJunction env token kind gs else pure v := by
  induction fs with
  | nil => rw [evaluateJunction, pure_bind, if_pos rfl, List.nil_append]
  | cons f fs ih =>
    rw [List.cons_append, evaluateJunction, evaluateJunction, bind_assoc]
    refine bind_congr fun v => ?_
    rw [bind_assoc]
    refine bind_congr fun b => ?_
    by_cases hb : b = kind.neutral
    · rw [if_pos hb, if_pos hb, ih]
    · rw [if_neg hb, if_neg hb, pure_bind, if_neg fun h => hb (Value.boolean.inj h)]

/-- The value of a junction is a boolean. -/
theorem exists_boolean_of_evaluateJunction
    (h : evaluateJunction env token kind fs s = .ok v s') : ∃ b, v = .boolean b := by
  induction fs generalizing s with
  | nil =>
    cases h
    exact ⟨_, rfl⟩
  | cons f fs ih =>
    rw [evaluateJunction] at h
    obtain ⟨w, s₁, -, hrest⟩ := exists_of_bind_eq_ok h
    obtain ⟨b, s₂, -, hlast⟩ := exists_of_bind_eq_ok hrest
    split at hlast
    · exact ih hlast
    · cases hlast
      exact ⟨b, rfl⟩

/-- A junction as the first operand of one of its kind does what its operands would do. -/
theorem evaluateJunction_junction (env : Environment σ) (token : Option CancellationToken)
    (kind : Junction) (fs gs : List Formula) :
    evaluateJunction env token kind (junction kind fs :: gs) =
      evaluateJunction env token kind (fs ++ gs) := by
  rw [evaluateJunction_append, evaluateJunction, evaluate]
  funext s
  refine bind_congr_at fun v t hv => ?_
  obtain ⟨b, rfl⟩ := exists_boolean_of_evaluateJunction hv
  rw [demand, pure_bind]
  by_cases hb : b = kind.neutral
  · rw [if_pos hb, if_pos (congrArg Value.boolean hb)]
  · rw [if_neg hb, if_neg fun h => hb (Value.boolean.inj h)]

/-- **A junction within a junction of its kind may be dissolved.** -/
theorem evaluateJunction_flatten (env : Environment σ) (token : Option CancellationToken)
    (kind : Junction) (xs ys zs : List Formula) :
    evaluateJunction env token kind (xs ++ [junction kind ys] ++ zs) =
      evaluateJunction env token kind (xs ++ ys ++ zs) := by
  rw [List.append_assoc, List.append_assoc, evaluateJunction_append,
    evaluateJunction_append env token kind xs, List.singleton_append, evaluateJunction_junction]

/-! ### The negation of a junction -/

theorem evaluate_negation_of_boolean {b : Bool} (h : f.evaluate env token s = .ok (.boolean b) s') :
    (negation f).evaluate env token s = .ok (.boolean !b) s' := by
  rw [evaluate, bind_eq_of_ok h]
  rfl

/-- Where an operand is entered, its negation is entered by the other junction. -/
theorem EntersAmong.negated (hs : EntersAmong env token (· = .boolean kind.neutral) fs s i f s₁) :
    EntersAmong env token (· = .boolean kind.dual.neutral) (fs.map negation) s i (negation f)
      s₁ := by
  induction hs with
  | first => exact .first
  | later value on _ ih =>
    subst on
    refine .later (evaluate_negation_of_boolean value) ?_ ih
    rw [kind.neutral_dual]

/-- Where a junction has a value, the other one has the opposite value on the negations. -/
theorem evaluateJunction_map_negation
    (h : evaluateJunction env token kind fs s = .ok v s') :
    ∃ b, v = .boolean b ∧
      evaluateJunction env token kind.dual (fs.map negation) s = .ok (.boolean !b) s' := by
  induction fs generalizing s with
  | nil =>
    cases h
    exact ⟨kind.neutral, rfl, by rw [List.map_nil, evaluateJunction, kind.neutral_dual]; rfl⟩
  | cons f fs ih =>
    cases hf : f.evaluate env token s with
    | error e s₁ =>
      rw [evaluateJunction, bind_eq_of_error hf] at h
      cases h
    | ok w s₁ =>
      rcases operand_cases kind w with rfl | rfl | hw
      · rw [evaluateJunction_of_neutral hf] at h
        have hneutral := evaluate_negation_of_boolean hf
        rw [← kind.neutral_dual] at hneutral
        rw [List.map_cons, evaluateJunction_of_neutral hneutral]
        exact ih h
      · cases (evaluateJunction_of_decisive hf).symm.trans h
        have hdecisive := evaluate_negation_of_boolean hf
        rw [← kind.neutral_dual] at hdecisive
        refine ⟨_, rfl, ?_⟩
        rw [List.map_cons, evaluateJunction_of_decisive hdecisive, kind.neutral_dual]
      · cases (evaluateJunction_of_kind_ne hf hw).symm.trans h

/-- The operand at place `i` of a junction that is negated stands at the place `[0, i]`; in the
other junction of the negations it stands at `[i, 0]`. -/
def SameOperand (p q : Position) : Prop := ∃ i, p = [0, i] ∧ q = [i, 0]

/-- **The laws of De Morgan**: the negation of a junction and the other junction of the negations
end alike. -/
theorem endAlike_deMorgan (env : Environment σ) (token : Option CancellationToken)
    (kind : Junction) (fs : List Formula) (s : σ) :
    EndAlike env token .boolean SameOperand (negation (junction kind fs))
      (junction kind.dual (fs.map negation)) s := by
  cases h : evaluateJunction env token kind fs s with
  | ok v s' =>
    obtain ⟨b, rfl, hdual⟩ := evaluateJunction_map_negation h
    exact .value rfl (evaluate_negation_of_boolean h) hdual
  | error e s' =>
    obtain ⟨i, f, s₁, hentered, hf⟩ := exists_entersAmong_of_junction_error h
    have hplaces : SameOperand [0, i] [i, 0] := ⟨i, rfl, rfl⟩
    have hjunction : Visits env token (negation (junction kind fs)) s [0] (junction kind fs) s :=
      .enter .negated .root
    have hnegation :
        Visits env token (junction kind.dual (fs.map negation)) s [i] (negation f) s₁ :=
      .enter (.joined hentered.negated) .root
    have hleft : Visits env token (negation (junction kind fs)) s [0, i] f s₁ :=
      .enter .negated (.enter (.joined hentered) .root)
    have hright : Visits env token (junction kind.dual (fs.map negation)) s [i, 0] f s₁ :=
      .enter (.joined hentered.negated) (.enter .negated .root)
    rcases hf with hf | ⟨v, hf, hv, rfl⟩
    · exact .failed hplaces hleft hright hf (hleft.evaluate_eq hf) (hright.evaluate_eq hf)
    · -- the one refuses the value as a junction, the other as a negation
      exact .refused hplaces hleft hright hf hv (.expectedBoolean _ _) (.expectedBoolean _ _)
        (hjunction.evaluate_eq (Raises.junction hentered hf hv).evaluate_eq)
        (hnegation.evaluate_eq (Raises.negation hf hv).evaluate_eq)

/-- **Junctions may be flattened and negated term by term.** A junction among the operands of one of
its kind, be it empty or not, may be replaced by its operands: the outcome is the same to the error,
and so are the calls and the state of the host. The negation of a junction and the other junction of
the negations have one value, or fail at one operand with errors that differ at most in the name of
the construct; the calls and the state of the host are the same. -/
theorem junction_laws (env : Environment σ) (token : Option CancellationToken) (kind : Junction)
    (s : σ) :
    (∀ xs ys zs : List Formula,
      (junction kind (xs ++ [junction kind ys] ++ zs)).evaluate env token s =
          (junction kind (xs ++ ys ++ zs)).evaluate env token s ∧
        (junction kind (xs ++ [junction kind ys] ++ zs)).trace env token s =
          (junction kind (xs ++ ys ++ zs)).trace env token s) ∧
    ∀ xs : List Formula,
      EndAlike env token .boolean SameOperand (negation (junction kind xs))
          (junction kind.dual (xs.map negation)) s ∧
        (negation (junction kind xs)).trace env token s =
          (junction kind.dual (xs.map negation)).trace env token s := by
  refine ⟨fun xs ys zs => ⟨?_, ?_⟩, fun xs => ⟨endAlike_deMorgan env token kind xs s, ?_⟩⟩
  · rw [evaluate, evaluate, evaluateJunction_flatten]
  · rw [trace, trace, evaluate, evaluate, evaluateJunction_flatten]
  · exact (endAlike_deMorgan env.recorded token kind xs (s, [])).trace_eq

/-- `NOT(AND(TRUE();A();FAIL()))` and `OR(NOT(TRUE());NOT(A());NOT(FAIL()))` both come as far as the
text that `A` returns, which the one refuses in `AND` and the other in `NOT`. -/
theorem junction_laws_refused :
    let f := negation (junction .and [literal (.boolean true), call "A" [], call "FAIL" []])
    let g := junction .or
      [negation (literal (.boolean true)), negation (call "A" []), negation (call "FAIL" [])]
    f.evaluate counted none 0 = .error (.expectedBoolean (.junction .and) .text) 1 ∧
      g.evaluate counted none 0 = .error (.expectedBoolean .negation .text) 1 ∧
      EndAlike counted none .boolean SameOperand f g 0 ∧
      f.trace counted none 0 = g.trace counted none 0 :=
  ⟨rfl, rfl, (junction_laws counted none .and 0).2 _⟩

end Formula

end SheetFormula
