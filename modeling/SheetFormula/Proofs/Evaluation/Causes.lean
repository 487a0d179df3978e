import SheetFormula.Proofs.Evaluation.Unvisited

/-!
# Why evaluations fail

Every runtime error is accounted for by a formula that the evaluation has come to, by the
environment, and by the values that there were (`Formula.Accounts`, with a clause for each error):
a name that is bound to nothing or to something else than is needed, a function that failed in the
last call that was made, or operands of just the kinds that are reported.

The error is that of the first formula to fail. Where it arises and on the way there all formulas
fail with it, and in the same state; all other formulas that the evaluation comes to have values
(`Formula.error_accounted`). So nothing on the way up takes an error for something else, and nothing
is evaluated after it.
-/

namespace SheetFormula

/-! ### What operators refuse -/

namespace ArithmeticOp

/-- Arithmetic refuses a division of numbers by a zero, and values that are not both numbers. -/
theorem apply_eq_error {op : ArithmeticOp} {v w : Value} {e : RuntimeError}
    (h : op.apply v w = .error e) :
    (op = .div ∧ ∃ x y, v = .number x ∧ w = .number y ∧ y.isZero = true ∧ e = .divisionByZero) ∨
      (¬ (v.kind = .number ∧ w.kind = .number) ∧ e = .invalidOperands op v.kind w.kind) := by
  cases v with
  | number x =>
    cases w with
    | number y =>
      rw [apply] at h
      cases op with
      | div =>
        by_cases hy : y.isZero = true
        · rw [compute?, if_pos hy] at h
          cases h
          exact .inl ⟨rfl, x, y, rfl, rfl, hy, rfl⟩
        · rw [compute?, if_neg hy] at h
          cases h
      | _ => cases h
    | text _ | boolean _ =>
      cases h
      exact .inr ⟨fun hkinds => Kind.noConfusion hkinds.2, rfl⟩
  | text _ | boolean _ =>
    cases h
    exact .inr ⟨fun hkinds => Kind.noConfusion hkinds.1, rfl⟩

end ArithmeticOp

namespace EqualityOp

/-- An equality test refuses values of different kinds. -/
theorem apply_eq_error {op : EqualityOp} {v w : Value} {e : RuntimeError}
    (h : op.apply v w = .error e) :
    v.kind ≠ w.kind ∧ e = .mismatchedOperands op.symbol v.kind w.kind := by
  rw [apply] at h
  split at h
  · cases h
  · cases h
    exact ⟨‹_›, rfl⟩

end EqualityOp

namespace OrderingOp

/-- An order test refuses values of different kinds, and booleans. -/
theorem apply_eq_error {op : OrderingOp} {v w : Value} {e : RuntimeError}
    (h : op.apply v w = .error e) :
    (v.kind ≠ w.kind ∨ v.kind = .boolean) ∧ e = .mismatchedOperands op.symbol v.kind w.kind := by
  cases v <;> cases w <;> cases h
  case boolean.boolean => exact ⟨.inr rfl, rfl⟩
  all_goals exact ⟨.inl Kind.noConfusion, rfl⟩

end OrderingOp

namespace Operator

/-- A concatenation refuses a left side that is no text. -/
theorem accept_eq_error {op : Operator} {v : Value} {e : RuntimeError}
    (h : op.accept v = .error e) :
    op = .concat ∧ v.kind ≠ .text ∧ e = .concatOperand .left v.kind := by
  cases op with
  | concat =>
    cases v with
    | text _ => cases h
    | number _ | boolean _ =>
      cases h
      exact ⟨rfl, Kind.noConfusion, rfl⟩
  | _ => cases h

end Operator

/-! ### Recorded evaluations -/

/-- A recorded function fails as it would without a record, its own call being the last on it. -/
theorem NativeFunction.eq_error_of_recorded {σ : Type} {F : NativeFunction σ} {c : Call}
    {failure : Failure} {s t : σ × List Call} (h : F.recorded c s = .error failure t) :
    F c s.1 = .error failure t.1 ∧ t.2.head? = some c := by
  rw [recorded] at h
  cases hF : F c s.1 with
  | ok v u =>
    rw [hF] at h
    cases h
  | error failure' u =>
    rw [hF] at h
    cases h
    exact ⟨rfl, rfl⟩

namespace Environment

variable {σ : Type} {env : Environment σ} {name : String}

theorem get_eq_none_of_recorded (h : env.recorded.get name = none) : env.get name = none :=
  Option.map_eq_none_iff.mp h

theorem get_eq_value_of_recorded {v : Value} (h : env.recorded.get name = some (.value v)) :
    env.get name = some (.value v) := by
  obtain ⟨b, hb, hrecorded⟩ := Option.map_eq_some_iff.mp h
  cases b <;> cases hrecorded
  exact hb

end Environment

namespace Formula

open SheetFormula.Evaluation SheetFormula.Sequence

section Recorded

variable {σ : Type} {env : Environment σ} {token : Option CancellationToken} {f : Formula}
  {fs : List Formula} {e : RuntimeError}

theorem evaluate_eq_error_of_recorded {s t : σ × List Call}
    (hf : f.evaluate env.recorded token s = .error e t) :
    f.evaluate env token s.1 = .error e t.1 := by
  rw [evaluate_recorded env token f s.1 s.2] at hf
  cases hs : f.evaluate env token s.1 with
  | ok w u =>
    rw [hs] at hf
    cases hf
  | error e u =>
    rw [hs] at hf
    cases hf
    rfl

theorem evaluateAll_eq_ok_of_recorded {values : List Value} {s t : σ × List Call}
    (hs : evaluateAll env.recorded token fs s = .ok values t) :
    evaluateAll env token fs s.1 = .ok values t.1 := by
  induction fs generalizing s values with
  | nil =>
    cases hs
    rfl
  | cons f fs ih =>
    rw [evaluateAll] at hs
    obtain ⟨v, s', hf, hrest⟩ := exists_of_bind_eq_ok hs
    obtain ⟨vs, s'', hfs, hpure⟩ := exists_of_bind_eq_ok hrest
    cases hpure
    rw [evaluateAll, bind_eq_of_ok (evaluate_eq_ok_of_recorded hf), bind_eq_of_ok (ih hfs)]
    rfl

end Recorded

/-! ### Causes -/

section Rules

variable {σ : Type} (env : Environment σ) (token : Option CancellationToken)

/-- The operator at the root has its **sides** evaluated to two values, one after the other. -/
inductive Sides : Formula → σ → Operator → Value → Value → σ → Prop
  | binary {op : Operator} {f g : Formula} {v w : Value} {s s₁ s₂ : σ}
      (left : f.evaluate env token s = .ok v s₁) (right : g.evaluate env token s₁ = .ok w s₂) :
      Sides (.binary op f g) s op v w s₂

/-- The construct at the root **tests** a child, which it enters in a certain state. -/
inductive Tests : Formula → σ → Construct → Formula → σ → Prop
  | negation {f : Formula} {s : σ} : Tests (.negation f) s .negation f s
  | junction {kind : Junction} {operands : List Formula} {f : Formula} {i : Nat} {s s₁ : σ}
      (entered : EntersAmong env token (· = .boolean kind.neutral) operands s i f s₁) :
      Tests (.junction kind operands) s (.junction kind) f s₁
  | conditional {f g h : Formula} {s : σ} : Tests (.conditional f g h) s .conditional f s

/-- The formula `g`, evaluated from the state `s` to the state `s'`, **accounts for** an error by
what stands at its root, if `last` is the last call that has been made. -/
def Accounts (g : Formula) (s s' : σ) (last : Option Call) : RuntimeError → Prop
  | .unknownIdentifier name => g = .reference name ∧ env.get name = none
  | .invalidIdentifierType name =>
    g = .reference name ∧ ∃ F, env.get name = some (.function F)
  | .unknownFunction name => (∃ arguments, g = .call name arguments) ∧ env.get name = none
  | .notAFunction name =>
    (∃ arguments, g = .call name arguments) ∧ ∃ v, env.get name = some (.value v)
  | .function name source =>
    ∃ arguments F values s₁, g = .call name arguments ∧ env.get name = some (.function F) ∧
      evaluateAll env token arguments s = .ok values s₁ ∧
      F ⟨name, values, token⟩ s₁ = .error source s' ∧ last = some ⟨name, values, token⟩
  | .divisionByZero =>
    ∃ x y, Sides env token g s (.arithmetic .div) (.number x) (.number y) s' ∧ y.isZero = true
  | .invalidOperands op left right =>
    ∃ v w, Sides env token g s (.arithmetic op) v w s' ∧ v.kind = left ∧ w.kind = right ∧
      ¬ (left = .number ∧ right = .number)
  | .mismatchedOperands symbol left right =>
    ∃ op v w, Sides env token g s op v w s' ∧ v.kind = left ∧ w.kind = right ∧
      ((∃ test, op = .equality test ∧ test.symbol = symbol ∧ left ≠ right) ∨
        ∃ test, op = .ordering test ∧ test.symbol = symbol ∧ (left ≠ right ∨ left = .boolean))
  | .concatOperand .left found =>
    ∃ left right v, g = .binary .concat left right ∧ left.evaluate env token s = .ok v s' ∧
      v.kind = found ∧ found ≠ .text
  | .concatOperand .right found =>
    ∃ v w, Sides env token g s .concat v w s' ∧ v.kind = .text ∧ w.kind = found ∧ found ≠ .text
  | .expectedBoolean construct found =>
    ∃ child s₁ v, Tests env token g s construct child s₁ ∧
      child.evaluate env token s₁ = .ok v s' ∧ v.kind = found ∧ found ≠ .boolean

end Rules

variable {σ : Type} {env : Environment σ} {token : Option CancellationToken}
  {f g h : Formula} {fs : List Formula} {s s' s₁ s₂ : σ} {i j : Nat} {p q : Position}
  {v w : Value} {e : RuntimeError} {goesOn : Value → Prop} {last : Option Call}

/-- What an operator refuses its node accounts for. -/
theorem Sides.accounts {op : Operator} (hg : Sides env token g s op v w s')
    (haccept : op.accept v = .ok ()) (happly : op.apply v w = .error e) :
    Accounts env token g s s' last e := by
  cases op with
  | arithmetic op =>
    rcases ArithmeticOp.apply_eq_error happly with ⟨rfl, x, y, rfl, rfl, hy, rfl⟩ | ⟨hkinds, rfl⟩
    · exact ⟨x, y, hg, hy⟩
    · exact ⟨v, w, hg, rfl, rfl, hkinds⟩
  | equality test =>
    obtain ⟨hkinds, rfl⟩ := EqualityOp.apply_eq_error happly
    exact ⟨_, v, w, hg, rfl, rfl, .inl ⟨test, rfl, rfl, hkinds⟩⟩
  | ordering test =>
    obtain ⟨hkinds, rfl⟩ := OrderingOp.apply_eq_error happly
    exact ⟨_, v, w, hg, rfl, rfl, .inr ⟨test, rfl, rfl, hkinds⟩⟩
  | concat =>
    cases v with
    | number _ | boolean _ => cases haccept
    | text _ =>
      cases w with
      | text _ => cases happly
      | number _ | boolean _ =>
        cases happly
        exact ⟨_, _, hg, rfl, rfl, Kind.noConfusion⟩

/-- **The node where an error arises accounts for it.** In the evaluation on record it is seen which
call was the last. -/
theorem Raises.accounts {t t' : σ × List Call} (hg : g.Raises env.recorded token t e t') :
    Accounts env token g t.1 t'.1 t'.2.head? e := by
  cases hg with
  | unknownIdentifier unbound => exact ⟨rfl, Environment.get_eq_none_of_recorded unbound⟩
  | invalidIdentifierType bound =>
    obtain ⟨F, hF, -⟩ := Environment.exists_function_of_recorded bound
    exact ⟨rfl, F, hF⟩
  | unknownFunction unbound => exact ⟨⟨_, rfl⟩, Environment.get_eq_none_of_recorded unbound⟩
  | notAFunction bound => exact ⟨⟨_, rfl⟩, _, Environment.get_eq_value_of_recorded bound⟩
  | function bound evaluated failed =>
    obtain ⟨F, hF, rfl⟩ := Environment.exists_function_of_recorded bound
    obtain ⟨hfailed, hlast⟩ := NativeFunction.eq_error_of_recorded failed
    exact ⟨_, F, _, _, rfl, hF, evaluateAll_eq_ok_of_recorded evaluated, hfailed, hlast⟩
  | negation value kind =>
    exact ⟨_, _, _, .negation, evaluate_eq_ok_of_recorded value, rfl, kind⟩
  | leftSide value refused =>
    obtain ⟨rfl, hkind, rfl⟩ := Operator.accept_eq_error refused
    exact ⟨_, _, _, rfl, evaluate_eq_ok_of_recorded value, rfl, hkind⟩
  | operator left accepted right refused =>
    exact Sides.accounts (.binary (evaluate_eq_ok_of_recorded left)
      (evaluate_eq_ok_of_recorded right)) accepted refused
  | junction entered value kind_ne =>
    exact ⟨_, _, _, .junction entered.of_recorded, evaluate_eq_ok_of_recorded value, rfl, kind_ne⟩
  | conditional value kind =>
    exact ⟨_, _, _, .conditional, evaluate_eq_ok_of_recorded value, rfl, kind⟩

/-! ### The first formula to fail -/

/-- A formula **has a value** in a state. -/
def HasValue (env : Environment σ) (token : Option CancellationToken) (f : Formula) (s : σ) :
    Prop :=
  ∃ v s', f.evaluate env token s = .ok v s'

theorem hasValue_or_error (f : Formula) (s : σ) :
    f.HasValue env token s ∨ ∃ e s', f.evaluate env token s = .error e s' := by
  cases h : f.evaluate env token s with
  | ok v s' => exact .inl ⟨v, s', h⟩
  | error e s' => exact .inr ⟨e, s', rfl⟩

theorem HasValue.ne_error (hf : f.HasValue env token s) :
    f.evaluate env token s ≠ .error e s' := by
  obtain ⟨v, t, hv⟩ := hf
  intro he
  cases hv.symm.trans he

/-- Where a formula has a value, so has everything that is visited in it. -/
theorem HasValue.of_visits (hf : f.HasValue env token s) (hvisits : f.Visits env token s p g s₁) :
    g.HasValue env token s₁ := by
  refine (hasValue_or_error g s₁).resolve_right ?_
  rintro ⟨e, s', he⟩
  exact hf.ne_error (hvisits.evaluate_eq he)

/-- What is entered after a formula is entered when this one has a value. -/
theorem EntersAmong.hasValue_of_ne (hs : EntersAmong env token goesOn fs s i f s₁)
    (hf : f.evaluate env token s₁ = .error e s') (hs' : EntersAmong env token goesOn fs s j g s₂)
    (hij : i ≠ j) : g.HasValue env token s₂ := by
  induction hs generalizing j with
  | first =>
    cases hs' with
    | first => exact absurd rfl hij
    | later value _ _ => cases value.symm.trans hf
  | later value _ _ ih =>
    cases hs' with
    | first => exact ⟨_, _, value⟩
    | later value' _ entered' =>
      cases value.symm.trans value'
      exact ih hf entered' fun h => hij (congrArg (· + 1) h)

/-- **One child fails at most**: the others that are entered have values. -/
theorem Enters.hasValue_of_ne (hf : f.Enters env token s i g s₁)
    (hg : g.evaluate env token s₁ = .error e s') (hf' : f.Enters env token s j h s₂)
    (hij : i ≠ j) : h.HasValue env token s₂ := by
  cases hf with
  | argument _ entered =>
    cases hf' with
    | argument _ entered' => exact entered.hasValue_of_ne hg entered' hij
  | joined entered =>
    cases hf' with
    | joined entered' => exact entered.hasValue_of_ne hg entered' hij
  | negated =>
    cases hf'
    exact absurd rfl hij
  | left =>
    cases hf' with
    | left => exact absurd rfl hij
    | right value _ => cases value.symm.trans hg
  | right value _ =>
    cases hf' with
    | left => exact ⟨_, _, value⟩
    | right _ _ => exact absurd rfl hij
  | condition =>
    cases hf' with
    | condition => exact absurd rfl hij
    | onTrue value | onFalse value => cases value.symm.trans hg
  | onTrue value =>
    cases hf' with
    | condition => exact ⟨_, _, value⟩
    | onTrue _ => exact absurd rfl hij
    | onFalse value' => cases value.symm.trans value'
  | onFalse value =>
    cases hf' with
    | condition => exact ⟨_, _, value⟩
    | onFalse _ => exact absurd rfl hij
    | onTrue value' => cases value.symm.trans value'

theorem Sides.hasValue_of_enters {op : Operator} (hg : Sides env token g s op v w s')
    (henters : g.Enters env token s i h s₁) : h.HasValue env token s₁ := by
  cases hg with
  | binary left right =>
    cases henters with
    | left => exact ⟨_, _, left⟩
    | right value _ =>
      cases left.symm.trans value
      exact ⟨_, _, right⟩

/-- Of the operands of a junction those have values that are entered up to one which has a value of
the wrong kind. -/
theorem EntersAmong.hasValue_of_kind_ne {kind : Junction}
    (hs : EntersAmong env token (· = .boolean kind.neutral) fs s i f s₁)
    (hf : f.evaluate env token s₁ = .ok v s') (hv : v.kind ≠ .boolean)
    (hs' : EntersAmong env token (· = .boolean kind.neutral) fs s j g s₂) :
    g.HasValue env token s₂ := by
  induction hs generalizing j with
  | first =>
    cases hs' with
    | first => exact ⟨_, _, hf⟩
    | later value on _ =>
      cases value.symm.trans hf
      exact absurd (congrArg Value.kind on) hv
  | later value _ _ ih =>
    cases hs' with
    | first => exact ⟨_, _, value⟩
    | later value' _ entered' =>
      cases value.symm.trans value'
      exact ih hf entered'

theorem Tests.hasValue_of_enters {construct : Construct} (hg : Tests env token g s construct f s₁)
    (hf : f.evaluate env token s₁ = .ok v s') (hv : v.kind ≠ .boolean)
    (henters : g.Enters env token s i h s₂) : h.HasValue env token s₂ := by
  cases hg with
  | negation =>
    cases henters
    exact ⟨_, _, hf⟩
  | junction entered =>
    cases henters with
    | joined entered' => exact entered.hasValue_of_kind_ne hf hv entered'
  | conditional =>
    cases henters with
    | condition => exact ⟨_, _, hf⟩
    | onTrue value | onFalse value =>
      cases value.symm.trans hf
      exact absurd rfl hv

/-- **The children of the node where an error arises have values**, as many of them as are
entered. -/
theorem Accounts.hasValue_of_enters (hg : Accounts env token g s s' last e)
    (henters : g.Enters env token s i h s₁) : h.HasValue env token s₁ := by
  cases e with
  | unknownIdentifier name | invalidIdentifierType name =>
    obtain ⟨rfl, -⟩ := hg
    cases henters
  | unknownFunction name =>
    obtain ⟨⟨arguments, rfl⟩, hunbound⟩ := hg
    cases henters with
    | argument bound _ => cases hunbound.symm.trans bound
  | notAFunction name =>
    obtain ⟨⟨arguments, rfl⟩, v, hbound⟩ := hg
    cases henters with
    | argument bound _ => cases hbound.symm.trans bound
  | function name source =>
    obtain ⟨arguments, F, values, t, rfl, -, hvalues, -⟩ := hg
    cases henters with
    | argument _ entered =>
      refine (hasValue_or_error h s₁).resolve_right ?_
      rintro ⟨e, s₂, he⟩
      cases hvalues.symm.trans (entered.evaluateAll_eq he)
  | divisionByZero =>
    obtain ⟨x, y, hsides, -⟩ := hg
    exact hsides.hasValue_of_enters henters
  | invalidOperands op left right =>
    obtain ⟨v, w, hsides, -⟩ := hg
    exact hsides.hasValue_of_enters henters
  | mismatchedOperands symbol left right =>
    obtain ⟨op, v, w, hsides, -⟩ := hg
    exact hsides.hasValue_of_enters henters
  | concatOperand side found =>
    cases side with
    | left =>
      obtain ⟨left, right, v, rfl, hv, rfl, hkind⟩ := hg
      cases henters with
      | left => exact ⟨_, _, hv⟩
      -- the right side is not entered behind a left one that is no text
      | right value accepted =>
        cases hv.symm.trans value
        cases v with
        | text _ => exact absurd rfl hkind
        | number _ | boolean _ => cases accepted
    | right =>
      obtain ⟨v, w, hsides, -⟩ := hg
      exact hsides.hasValue_of_enters henters
  | expectedBoolean construct found =>
    obtain ⟨child, t, v, htests, hv, rfl, hkind⟩ := hg
    exact htests.hasValue_of_enters hv hkind henters

/-- **One way down fails.** Where a formula fails whose children have values, the formulas on the
way to it fail with the same error, and all others that are visited have values. -/
theorem Visits.fails_or_hasValue (hp : f.Visits env token s p g s₁)
    (hg : g.evaluate env token s₁ = .error e s')
    (hchildren : ∀ i c t, g.Enters env token s₁ i c t → c.HasValue env token t)
    (hq : f.Visits env token s q h s₂) :
    (q <+: p → h.evaluate env token s₂ = .error e s') ∧
      (¬ q <+: p → h.HasValue env token s₂) := by
  induction hp generalizing q with
  | root =>
    cases hq with
    | root => exact ⟨fun _ => hg, fun hq => absurd (List.prefix_refl _) hq⟩
    | enter henters hbelow =>
      refine ⟨fun hprefix => ?_, fun _ => (hchildren _ _ _ henters).of_visits hbelow⟩
      exact absurd (List.prefix_nil.mp hprefix) (List.cons_ne_nil _ _)
  | @enter _ _ _ _ _ _ i p henters hvisits ih =>
    have hchild := hvisits.evaluate_eq hg
    cases hq with
    | root => exact ⟨fun _ => henters.evaluate_eq hchild, fun hq => absurd List.nil_prefix hq⟩
    | @enter _ _ _ _ _ _ j q henters' hbelow =>
      -- below the child that fails go on down, and in all others nothing fails
      rw [List.cons_prefix_cons]
      by_cases hij : i = j
      · subst hij
        obtain ⟨rfl, rfl⟩ := henters.unique henters'
        obtain ⟨hon, hoff⟩ := ih hg hchildren hbelow
        exact ⟨fun hprefix => hon hprefix.2, fun hprefix => hoff fun h => hprefix ⟨rfl, h⟩⟩
      · have hbeside := henters.hasValue_of_ne hchild henters' hij
        exact ⟨fun hprefix => absurd hprefix.1.symm hij, fun _ => hbeside.of_visits hbelow⟩

/-- **Every runtime error is accounted for**, and it is that of the first formula to fail. A formula
that the evaluation comes to accounts for it by what stands at its root, the operands there having
been evaluated just before; the formulas on the way to it fail with the same error in the same
state; and all others that the evaluation comes to have values. -/
theorem error_accounted (env : Environment σ) (token : Option CancellationToken) (f : Formula)
    (s s' : σ) (e : RuntimeError) (h : f.evaluate env token s = .error e s') :
    ∃ p g s₁, f.Visits env token s p g s₁ ∧ f.at? p = some g ∧
      Accounts env token g s₁ s' (f.trace env token s).getLast? e ∧
      ∀ q k t, f.Visits env token s q k t →
        (q <+: p → k.evaluate env token t = .error e s') ∧
          (¬ q <+: p → k.HasValue env token t) := by
  -- the evaluation on record fails in the same way, and shows which call was the last
  have hrecorded : f.evaluate env.recorded token (s, []) =
      .error e (s', (f.trace env token s).reverse) := by
    rw [evaluate_recorded, h, List.append_nil]
    rfl
  obtain ⟨p, g, t, hvisits, hraises⟩ := evaluate_eq_error_iff.mp hrecorded
  have hg := evaluate_eq_error_of_recorded hraises.evaluate_eq
  have haccounts := hraises.accounts
  rw [List.head?_reverse] at haccounts
  exact ⟨p, g, t.1, hvisits.of_recorded, hvisits.of_recorded.at?, haccounts, fun q k t' =>
    hvisits.of_recorded.fails_or_hasValue hg fun _ _ _ => haccounts.hasValue_of_enters⟩

/-- `F(A();FAIL(B()))` fails by the last call that it makes, in which `FAIL` is given what `B` has
returned. -/
theorem error_accounted_call :
    let f := call "F" [call "A" [], call "FAIL" [call "B" []]]
    f.evaluate counted none 0 = .error (.function "FAIL" (.other "refused")) 3 ∧
      f.trace counted none 0 =
        [⟨"A", [], none⟩, ⟨"B", [], none⟩, ⟨"FAIL", [.text "B"], none⟩] ∧
      ∃ p g s₁, f.Visits counted none 0 p g s₁ ∧ f.at? p = some g ∧
        Accounts counted none g s₁ 3 (some ⟨"FAIL", [.text "B"], none⟩)
          (.function "FAIL" (.other "refused")) ∧
        ∀ q k t, f.Visits counted none 0 q k t →
          (q <+: p → k.evaluate counted none t =
            .error (.function "FAIL" (.other "refused")) 3) ∧
            (¬ q <+: p → k.HasValue counted none t) :=
  ⟨rfl, rfl, error_accounted counted none _ 0 3 _ rfl⟩

end Formula

end SheetFormula
