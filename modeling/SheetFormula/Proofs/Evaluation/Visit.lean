import SheetFormula.Evaluation
import SheetFormula.Proofs.Formula.Position
import SheetFormula.Proofs.Sequence

/-!
# What an evaluation visits

The evaluation of a node **enters** some of its children, one after the other, each in the state
that the one before it has left: `Formula.Enters` has a rule for each way in which this happens.
From child to child an evaluation **visits** the formulas at certain positions, each in a certain
state (`Formula.Visits`); all others are never looked at.

An error **arises** at a visited node when its children have done their part (`Formula.Raises`, with
a rule for each cause), and from there it is handed up unchanged. So an evaluation fails just if an
error arises at a formula that it visits, and it ends in the very state in which this happened
(`Formula.evaluate_eq_error_iff`).
-/

namespace SheetFormula

namespace Formula

open SheetFormula.Evaluation SheetFormula.Sequence

/-! ### The rules -/

section Rules

variable {σ : Type} (env : Environment σ) (token : Option CancellationToken)

/-- The formulas of a list that are entered one after the other, as long as the values of those
before go on. -/
inductive EntersAmong (goesOn : Value → Prop) : List Formula → σ → Nat → Formula → σ → Prop
  | first {f : Formula} {fs : List Formula} {s : σ} : EntersAmong goesOn (f :: fs) s 0 f s
  | later {f g : Formula} {fs : List Formula} {s s₁ s₂ : σ} {v : Value} {i : Nat}
      (value : f.evaluate env token s = .ok v s₁) (on : goesOn v)
      (entered : EntersAmong goesOn fs s₁ i g s₂) : EntersAmong goesOn (f :: fs) s (i + 1) g s₂

/-- The evaluation of a formula from one state **enters** the child at a place in another. -/
inductive Enters : Formula → σ → Nat → Formula → σ → Prop
  /-- A function is looked up before its arguments are entered. -/
  | argument {name : String} {arguments : List Formula} {function : NativeFunction σ} {s s' : σ}
      {i : Nat} {f : Formula} (bound : env.get name = some (.function function))
      (entered : EntersAmong env token (fun _ => True) arguments s i f s') :
      Enters (.call name arguments) s i f s'
  /-- The operand of a negation. -/
  | negated {f : Formula} {s : σ} : Enters (.negation f) s 0 f s
  /-- The left side of an operator. -/
  | left {op : Operator} {f g : Formula} {s : σ} : Enters (.binary op f g) s 0 f s
  /-- The right side of an operator that accepts the left one. -/
  | right {op : Operator} {f g : Formula} {s s' : σ} {v : Value}
      (value : f.evaluate env token s = .ok v s') (accepted : op.accept v = .ok ()) :
      Enters (.binary op f g) s 1 g s'
  /-- The operands of a junction up to the first one that is not neutral. -/
  | joined {kind : Junction} {operands : List Formula} {s s' : σ} {i : Nat} {f : Formula}
      (entered : EntersAmong env token (· = .boolean kind.neutral) operands s i f s') :
      Enters (.junction kind operands) s i f s'
  /-- The condition of a conditional. -/
  | condition {f g h : Formula} {s : σ} : Enters (.conditional f g h) s 0 f s
  /-- The branch that a true condition takes. -/
  | onTrue {f g h : Formula} {s s' : σ} (value : f.evaluate env token s = .ok (.boolean true) s') :
      Enters (.conditional f g h) s 1 g s'
  /-- The branch that a false condition takes. -/
  | onFalse {f g h : Formula} {s s' : σ}
      (value : f.evaluate env token s = .ok (.boolean false) s') :
      Enters (.conditional f g h) s 2 h s'

/-- The evaluation of a formula from one state **visits** the formula at a position in another. -/
inductive Visits : Formula → σ → Position → Formula → σ → Prop
  | root {f : Formula} {s : σ} : Visits f s [] f s
  | enter {f g h : Formula} {s s₁ s₂ : σ} {i : Nat} {p : Position}
      (enters : Enters env token f s i g s₁) (visits : Visits g s₁ p h s₂) :
      Visits f s (i :: p) h s₂

/-- An error **arises** at a node, in a state that the children which it has entered have left. -/
inductive Raises : Formula → σ → RuntimeError → σ → Prop
  | unknownIdentifier {name : String} {s : σ} (unbound : env.get name = none) :
      Raises (.reference name) s (.unknownIdentifier name) s
  | invalidIdentifierType {name : String} {function : NativeFunction σ} {s : σ}
      (bound : env.get name = some (.function function)) :
      Raises (.reference name) s (.invalidIdentifierType name) s
  | unknownFunction {name : String} {arguments : List Formula} {s : σ}
      (unbound : env.get name = none) :
      Raises (.call name arguments) s (.unknownFunction name) s
  | notAFunction {name : String} {arguments : List Formula} {v : Value} {s : σ}
      (bound : env.get name = some (.value v)) :
      Raises (.call name arguments) s (.notAFunction name) s
  | function {name : String} {arguments : List Formula} {function : NativeFunction σ}
      {values : List Value} {failure : Failure} {s s₁ s₂ : σ}
      (bound : env.get name = some (.function function))
      (evaluated : evaluateAll env token arguments s = .ok values s₁)
      (failed : function ⟨name, values, token⟩ s₁ = .error failure s₂) :
      Raises (.call name arguments) s (.function name failure) s₂
  | negation {f : Formula} {v : Value} {s s' : σ} (value : f.evaluate env token s = .ok v s')
      (kind : v.kind ≠ .boolean) :
      Raises (.negation f) s (.expectedBoolean .negation v.kind) s'
  | leftSide {op : Operator} {f g : Formula} {v : Value} {e : RuntimeError} {s s' : σ}
      (value : f.evaluate env token s = .ok v s') (refused : op.accept v = .error e) :
      Raises (.binary op f g) s e s'
  | operator {op : Operator} {f g : Formula} {v w : Value} {e : RuntimeError} {s s₁ s₂ : σ}
      (left : f.evaluate env token s = .ok v s₁) (accepted : op.accept v = .ok ())
      (right : g.evaluate env token s₁ = .ok w s₂) (refused : op.apply v w = .error e) :
      Raises (.binary op f g) s e s₂
  | junction {kind : Junction} {operands : List Formula} {f : Formula} {v : Value} {i : Nat}
      {s s₁ s₂ : σ}
      (entered : EntersAmong env token (· = .boolean kind.neutral) operands s i f s₁)
      (value : f.evaluate env token s₁ = .ok v s₂) (kind_ne : v.kind ≠ .boolean) :
      Raises (.junction kind operands) s (.expectedBoolean (.junction kind) v.kind) s₂
  | conditional {f g h : Formula} {v : Value} {s s' : σ}
      (value : f.evaluate env token s = .ok v s') (kind : v.kind ≠ .boolean) :
      Raises (.conditional f g h) s (.expectedBoolean .conditional v.kind) s'

end Rules

variable {σ : Type} {env : Environment σ} {token : Option CancellationToken}
  {f g h : Formula} {fs : List Formula} {s s₁ s₂ : σ} {i : Nat} {p q : Position}
  {v : Value} {e : RuntimeError} {goesOn : Value → Prop}

/-! ### What is visited stands in the formula -/

theorem EntersAmong.getElem? (hs : EntersAmong env token goesOn fs s i f s₁) : fs[i]? = some f := by
  induction hs with
  | first => rfl
  | later _ _ _ ih => exact ih

theorem Enters.child (hf : f.Enters env token s i g s₁) : f.children[i]? = some g := by
  cases hf with
  | argument _ hs | joined hs => exact hs.getElem?
  | negated | left | right _ _ | condition | onTrue _ | onFalse _ => rfl

theorem Visits.at? (hf : f.Visits env token s p g s₁) : f.at? p = some g := by
  induction hf with
  | root => rfl
  | enter henters _ ih => exact (at?_cons_of_child henters.child).trans ih

/-- On the way to what is visited everything is visited. -/
theorem Visits.exists_of_append (hf : f.Visits env token s (p ++ q) h s₂) :
    ∃ g s₁, f.Visits env token s p g s₁ ∧ g.Visits env token s₁ q h s₂ := by
  induction p generalizing f s with
  | nil => exact ⟨f, s, .root, hf⟩
  | cons i p ih =>
    cases hf with
    | enter henters hvisits =>
      obtain ⟨g, s₁, hp, hq⟩ := ih hvisits
      exact ⟨g, s₁, .enter henters hp, hq⟩

/-! ### A place is entered in one way -/

theorem EntersAmong.unique (hs : EntersAmong env token goesOn fs s i f s₁)
    (hs' : EntersAmong env token goesOn fs s i g s₂) : f = g ∧ s₁ = s₂ := by
  induction hs with
  | first =>
    cases hs'
    exact ⟨rfl, rfl⟩
  | later value _ _ ih =>
    cases hs' with
    | later value' _ entered' =>
      cases value.symm.trans value'
      exact ih entered'

theorem Enters.unique (hf : f.Enters env token s i g s₁) (hf' : f.Enters env token s i h s₂) :
    g = h ∧ s₁ = s₂ := by
  cases hf <;> cases hf'
  case argument.argument hs _ _ hs' => exact hs.unique hs'
  case joined.joined hs hs' => exact hs.unique hs'
  case right.right _ value _ _ value' =>
    cases value.symm.trans value'
    exact ⟨rfl, rfl⟩
  case onTrue.onTrue value value' | onFalse.onFalse value value' =>
    cases value.symm.trans value'
    exact ⟨rfl, rfl⟩
  all_goals exact ⟨rfl, rfl⟩

/-- **A position is visited in one state at most.** -/
theorem Visits.unique (hf : f.Visits env token s p g s₁) (hf' : f.Visits env token s p h s₂) :
    g = h ∧ s₁ = s₂ := by
  induction hf with
  | root =>
    cases hf'
    exact ⟨rfl, rfl⟩
  | enter henters _ ih =>
    cases hf' with
    | enter henters' hvisits' =>
      obtain ⟨rfl, rfl⟩ := henters.unique henters'
      exact ih hvisits'

/-! ### The values of children -/

theorem exists_boolean_of_kind (hv : v.kind = .boolean) : ∃ b, v = .boolean b := by
  cases v with
  | boolean b => exact ⟨b, rfl⟩
  | text _ | number _ => cases hv

theorem demand_of_kind_ne {construct : Construct} (hv : v.kind ≠ .boolean) :
    demand construct v s = .error (.expectedBoolean construct v.kind) s := by
  cases v with
  | boolean _ => exact absurd rfl hv
  | text _ | number _ => rfl

theorem demand_eq_ok {construct : Construct} {b : Bool} (hv : demand construct v s = .ok b s₁) :
    v = .boolean b ∧ s₁ = s := by
  cases v with
  | boolean _ =>
    cases hv
    exact ⟨rfl, rfl⟩
  | text _ | number _ => cases hv

theorem demand_eq_error {construct : Construct} (hv : demand construct v s = .error e s₁) :
    v.kind ≠ .boolean ∧ e = .expectedBoolean construct v.kind ∧ s₁ = s := by
  cases v with
  | boolean _ => cases hv
  | text _ | number _ =>
    cases hv
    exact ⟨Kind.noConfusion, rfl, rfl⟩

theorem ofResult_eq_ok {α : Type} {x : Except RuntimeError α} {a : α}
    (hx : ofResult x s = .ok a s₁) : x = .ok a ∧ s₁ = s := by
  cases x <;> cases hx
  exact ⟨rfl, rfl⟩

theorem ofResult_eq_error {α : Type} {x : Except RuntimeError α}
    (hx : ofResult x s = .error e s₁) : x = .error e ∧ s₁ = s := by
  cases x <;> cases hx
  exact ⟨rfl, rfl⟩

theorem invoke_eq_error {function : NativeFunction σ} {c : Call}
    (hc : invoke function c s = .error e s₁) :
    ∃ failure, function c s = .error failure s₁ ∧ e = .function c.name failure := by
  rw [invoke] at hc
  cases hcall : function c s with
  | ok v s' =>
    rw [hcall] at hc
    cases hc
  | error failure s' =>
    rw [hcall] at hc
    cases hc
    exact ⟨failure, rfl, rfl⟩

/-- A neutral operand of a junction leaves it to the others. -/
theorem evaluateJunction_of_neutral {kind : Junction}
    (hf : f.evaluate env token s = .ok (.boolean kind.neutral) s₁) :
    evaluateJunction env token kind (f :: fs) s = evaluateJunction env token kind fs s₁ := by
  have hdemand : (demand (.junction kind) (.boolean kind.neutral) : Evaluation σ Bool) s₁ =
      .ok kind.neutral s₁ := rfl
  rw [evaluateJunction, bind_eq_of_ok hf, bind_eq_of_ok hdemand, if_pos rfl]

/-- The first operand of a junction that is not neutral decides it. -/
theorem evaluateJunction_of_decisive {kind : Junction}
    (hf : f.evaluate env token s = .ok (.boolean !kind.neutral) s₁) :
    evaluateJunction env token kind (f :: fs) s = .ok (.boolean !kind.neutral) s₁ := by
  have hdemand : (demand (.junction kind) (.boolean !kind.neutral) : Evaluation σ Bool) s₁ =
      .ok (!kind.neutral) s₁ := rfl
  rw [evaluateJunction, bind_eq_of_ok hf, bind_eq_of_ok hdemand, if_neg (by simp)]
  rfl

theorem evaluateJunction_of_kind_ne {kind : Junction} (hf : f.evaluate env token s = .ok v s₁)
    (hv : v.kind ≠ .boolean) : evaluateJunction env token kind (f :: fs) s =
      .error (.expectedBoolean (.junction kind) v.kind) s₁ := by
  rw [evaluateJunction, bind_eq_of_ok hf]
  exact bind_eq_of_error (demand_of_kind_ne hv)

/-- An operand of a junction is neutral, decisive or of the wrong kind. -/
theorem operand_cases (kind : Junction) (v : Value) :
    v = .boolean kind.neutral ∨ v = .boolean !kind.neutral ∨ v.kind ≠ .boolean := by
  by_cases hv : v.kind = .boolean
  · obtain ⟨b, rfl⟩ := exists_boolean_of_kind hv
    by_cases hb : b = kind.neutral
    · exact .inl (congrArg Value.boolean hb)
    · exact .inr (.inl (congrArg Value.boolean (Bool.eq_not_of_ne hb)))
  · exact .inr (.inr hv)

/-! ### Errors are handed up -/

theorem EntersAmong.evaluateAll_eq (hs : EntersAmong env token (fun _ => True) fs s i f s₁)
    (hf : f.evaluate env token s₁ = .error e s₂) : evaluateAll env token fs s = .error e s₂ := by
  induction hs with
  | first =>
    rw [evaluateAll]
    exact bind_eq_of_error hf
  | later value _ _ ih =>
    rw [evaluateAll, bind_eq_of_ok value]
    exact bind_eq_of_error (ih hf)

theorem EntersAmong.evaluateJunction_eq {kind : Junction}
    (hs : EntersAmong env token (· = .boolean kind.neutral) fs s i f s₁)
    (hf : f.evaluate env token s₁ = .error e s₂) :
    evaluateJunction env token kind fs s = .error e s₂ := by
  induction hs with
  | first =>
    rw [evaluateJunction]
    exact bind_eq_of_error hf
  | later value on _ ih =>
    subst on
    rw [evaluateJunction_of_neutral value]
    exact ih hf

theorem resolveFunction_eq {name : String} {function : NativeFunction σ}
    (hname : env.get name = some (.function function)) :
    resolveFunction env name = pure function := by
  rw [resolveFunction, hname]

/-- An error of a child that is entered is the error of the formula. -/
theorem Enters.evaluate_eq (hf : f.Enters env token s i g s₁)
    (hg : g.evaluate env token s₁ = .error e s₂) : f.evaluate env token s = .error e s₂ := by
  cases hf with
  | argument bound entered =>
    rw [evaluate, resolveFunction_eq bound, pure_bind]
    exact bind_eq_of_error (entered.evaluateAll_eq hg)
  | negated | left | condition =>
    rw [evaluate]
    exact bind_eq_of_error hg
  | right value accepted =>
    rw [evaluate, bind_eq_of_ok value, accepted, ofResult, pure_bind]
    exact bind_eq_of_error hg
  | joined entered =>
    rw [evaluate]
    exact entered.evaluateJunction_eq hg
  | onTrue value | onFalse value =>
    rw [evaluate, bind_eq_of_ok value]
    exact hg

/-- **An error of what is visited is the error of the formula**, in the same state. -/
theorem Visits.evaluate_eq (hf : f.Visits env token s p g s₁)
    (hg : g.evaluate env token s₁ = .error e s₂) : f.evaluate env token s = .error e s₂ := by
  induction hf with
  | root => exact hg
  | enter henters _ ih => exact henters.evaluate_eq (ih hg)

/-! ### Where errors arise -/

theorem Raises.evaluate_eq (hf : f.Raises env token s e s₁) :
    f.evaluate env token s = .error e s₁ := by
  cases hf with
  | unknownIdentifier unbound =>
    rw [evaluate, resolve, unbound]
    rfl
  | invalidIdentifierType bound =>
    rw [evaluate, resolve, bound]
    rfl
  | unknownFunction unbound =>
    rw [evaluate, resolveFunction, unbound]
    rfl
  | notAFunction bound =>
    rw [evaluate, resolveFunction, bound]
    rfl
  | function bound evaluated failed =>
    rw [evaluate, resolveFunction_eq bound, pure_bind, bind_eq_of_ok evaluated, invoke, failed]
  | negation value kind | conditional value kind =>
    rw [evaluate, bind_eq_of_ok value]
    exact bind_eq_of_error (demand_of_kind_ne kind)
  | leftSide value refused =>
    rw [evaluate, bind_eq_of_ok value, refused]
    rfl
  | operator left accepted right refused =>
    rw [evaluate, bind_eq_of_ok left, accepted, ofResult, pure_bind, bind_eq_of_ok right, refused]
    rfl
  | junction entered value kind_ne =>
    rw [evaluate]
    induction entered with
    | first => exact evaluateJunction_of_kind_ne value kind_ne
    | later value' on _ ih =>
      subst on
      rw [evaluateJunction_of_neutral value']
      exact ih value

/-- A list of formulas fails in one that it enters. -/
theorem exists_entersAmong_of_error (hs : evaluateAll env token fs s = .error e s₁) :
    ∃ i f s', EntersAmong env token (fun _ => True) fs s i f s' ∧
      f.evaluate env token s' = .error e s₁ := by
  induction fs generalizing s with
  | nil => cases hs
  | cons f fs ih =>
    rw [evaluateAll] at hs
    rcases cases_of_bind_eq_error hs with hf | ⟨v, s', hf, hs⟩
    · exact ⟨0, f, s, .first, hf⟩
    · rcases cases_of_bind_eq_error hs with hfs | ⟨vs, s'', -, hpure⟩
      · obtain ⟨i, g, s₂, hentered, hg⟩ := ih hfs
        exact ⟨i + 1, g, s₂, .later hf trivial hentered, hg⟩
      · cases hpure

/-- The operands of a junction fail in one that they enter, or one of these is no boolean. -/
theorem exists_entersAmong_of_junction_error {kind : Junction}
    (hs : evaluateJunction env token kind fs s = .error e s₁) :
    ∃ i f s', EntersAmong env token (· = .boolean kind.neutral) fs s i f s' ∧
      (f.evaluate env token s' = .error e s₁ ∨ ∃ v, f.evaluate env token s' = .ok v s₁ ∧
        v.kind ≠ .boolean ∧ e = .expectedBoolean (.junction kind) v.kind) := by
  induction fs generalizing s with
  | nil => cases hs
  | cons f fs ih =>
    cases hf : f.evaluate env token s with
    | error e' s' =>
      rw [evaluateJunction, bind_eq_of_error hf] at hs
      cases hs
      exact ⟨0, f, s, .first, .inl hf⟩
    | ok v s' =>
      rcases operand_cases kind v with rfl | rfl | hv
      · rw [evaluateJunction_of_neutral hf] at hs
        obtain ⟨i, g, s₂, hentered, hg⟩ := ih hs
        exact ⟨i + 1, g, s₂, .later hf rfl hentered, hg⟩
      · cases (evaluateJunction_of_decisive hf).symm.trans hs
      · cases (evaluateJunction_of_kind_ne hf hv).symm.trans hs
        exact ⟨0, f, s, .first, .inr ⟨v, hf, hv, rfl⟩⟩

/-- An error of a formula **begins** there when it arises at the root or is that of a child which
is entered. -/
def Begins (env : Environment σ) (token : Option CancellationToken) (f : Formula) (s : σ)
    (e : RuntimeError) (s' : σ) : Prop :=
  f.Raises env token s e s' ∨
    ∃ i g s₁, f.Enters env token s i g s₁ ∧ g.evaluate env token s₁ = .error e s'

theorem begins_reference {name : String}
    (hf : (reference name).evaluate env token s = .error e s₁) :
    (reference name).Begins env token s e s₁ := by
  rw [evaluate, resolve] at hf
  rcases hname : env.get name with _ | v | function
  · rw [hname] at hf
    cases hf
    exact .inl (.unknownIdentifier hname)
  · rw [hname] at hf
    cases hf
  · rw [hname] at hf
    cases hf
    exact .inl (.invalidIdentifierType hname)

theorem begins_call {name : String} {arguments : List Formula}
    (hf : (call name arguments).evaluate env token s = .error e s₁) :
    (call name arguments).Begins env token s e s₁ := by
  rw [evaluate] at hf
  rcases hname : env.get name with _ | v | function
  · rw [resolveFunction, hname] at hf
    cases hf
    exact .inl (.unknownFunction hname)
  · rw [resolveFunction, hname] at hf
    cases hf
    exact .inl (.notAFunction hname)
  · rw [resolveFunction_eq hname, pure_bind] at hf
    rcases cases_of_bind_eq_error hf with hargs | ⟨values, s', hargs, hcall⟩
    · obtain ⟨i, g, s₂, hentered, hg⟩ := exists_entersAmong_of_error hargs
      exact .inr ⟨i, g, s₂, .argument hname hentered, hg⟩
    · obtain ⟨failure, hfailure, rfl⟩ := invoke_eq_error hcall
      exact .inl (.function hname hargs hfailure)

theorem begins_negation (hf : (negation f).evaluate env token s = .error e s₁) :
    (negation f).Begins env token s e s₁ := by
  rw [evaluate] at hf
  rcases cases_of_bind_eq_error hf with hoperand | ⟨v, s', hoperand, hrest⟩
  · exact .inr ⟨0, f, s, .negated, hoperand⟩
  · rcases cases_of_bind_eq_error hrest with hdemand | ⟨b, s'', -, hpure⟩
    · obtain ⟨hkind, rfl, rfl⟩ := demand_eq_error hdemand
      exact .inl (.negation hoperand hkind)
    · cases hpure

theorem begins_binary {op : Operator} (hf : (binary op f g).evaluate env token s = .error e s₁) :
    (binary op f g).Begins env token s e s₁ := by
  rw [evaluate] at hf
  rcases cases_of_bind_eq_error hf with hleft | ⟨v, s', hleft, hrest⟩
  · exact .inr ⟨0, f, s, .left, hleft⟩
  · rcases cases_of_bind_eq_error hrest with hrefused | ⟨_, s'', haccepted, hright⟩
    · obtain ⟨hresult, rfl⟩ := ofResult_eq_error hrefused
      exact .inl (.leftSide hleft hresult)
    · obtain ⟨hresult, rfl⟩ := ofResult_eq_ok haccepted
      rcases cases_of_bind_eq_error hright with hg | ⟨w, s₂, hg, happly⟩
      · exact .inr ⟨1, g, s'', .right hleft hresult, hg⟩
      · obtain ⟨hvalue, rfl⟩ := ofResult_eq_error happly
        exact .inl (.operator hleft hresult hg hvalue)

theorem begins_conditional (hf : (conditional f g h).evaluate env token s = .error e s₁) :
    (conditional f g h).Begins env token s e s₁ := by
  rw [evaluate] at hf
  rcases cases_of_bind_eq_error hf with hcondition | ⟨v, s', hcondition, hrest⟩
  · exact .inr ⟨0, f, s, .condition, hcondition⟩
  · rcases cases_of_bind_eq_error hrest with hdemand | ⟨b, s'', hdemand, hbranch⟩
    · obtain ⟨hkind, rfl, rfl⟩ := demand_eq_error hdemand
      exact .inl (.conditional hcondition hkind)
    · obtain ⟨rfl, rfl⟩ := demand_eq_ok hdemand
      cases b with
      | true => exact .inr ⟨1, g, s'', .onTrue hcondition, hbranch⟩
      | false => exact .inr ⟨2, h, s'', .onFalse hcondition, hbranch⟩

/-- **A formula fails by itself or by a child that it enters.** -/
theorem begins_of_evaluate_eq_error (hf : f.evaluate env token s = .error e s₁) :
    f.Begins env token s e s₁ := by
  cases f with
  | literal v => cases hf
  | reference name => exact begins_reference hf
  | call name arguments => exact begins_call hf
  | negation f => exact begins_negation hf
  | binary op f g => exact begins_binary hf
  | junction kind operands =>
    rw [evaluate] at hf
    obtain ⟨i, g, s', hentered, hg | ⟨v, hg, hkind, rfl⟩⟩ := exists_entersAmong_of_junction_error hf
    · exact .inr ⟨i, g, s', .joined hentered, hg⟩
    · exact .inl (.junction hentered hg hkind)
  | conditional f g h => exact begins_conditional hf

/-- **An evaluation fails just where an error arises**: at a formula that it visits, and it ends
with this error in the state in which it arose. -/
theorem evaluate_eq_error_iff :
    f.evaluate env token s = .error e s₂ ↔
      ∃ p g s₁, f.Visits env token s p g s₁ ∧ g.Raises env token s₁ e s₂ := by
  constructor
  · intro hf
    induction f using childInduction generalizing s with
    | node f ih =>
      rcases begins_of_evaluate_eq_error hf with hraises | ⟨i, g, s₁, henters, hg⟩
      · exact ⟨[], f, s, .root, hraises⟩
      · obtain ⟨p, h, s', hvisits, hraises⟩ := ih g (List.mem_of_getElem? henters.child) hg
        exact ⟨i :: p, h, s', .enter henters hvisits, hraises⟩
  · rintro ⟨p, g, s₁, hvisits, hraises⟩
    exact hvisits.evaluate_eq hraises.evaluate_eq

end Formula

end SheetFormula
