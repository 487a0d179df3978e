import SheetFormula.Expression.Evaluate
import SheetFormula.Proofs.Evaluation.CallOrder

/-!
# Cancellation tokens

An evaluation hands the token that it was started with to every call that it makes, however deep in
the formula, and it does nothing else with it. So a token is seen by the functions of the host
alone: where these ignore it, two evaluations cannot be told apart, whether they have one token,
another or none, and whatever has become of these tokens (`Formula.indistinguishable_evaluate`).

Whether a token has been cancelled is known to the host, so it is part of its state. What is left of
this state is a *view*. Functions that ignore tokens may cancel the one that they are handed; but
neither their results nor what they do to the state in view may depend on it
(`Environment.IgnoresTokens`).
-/

namespace SheetFormula

open SheetFormula.Sequence

/-! ### Functions that ignore tokens -/

/-- The call without its token. -/
def Call.withoutToken (c : Call) : Call := { c with cancellation := none }

/-- Whether a function **ignores tokens**, as far as a view of the state shows: calls that differ in
nothing but the token cannot be told apart. -/
def NativeFunction.IgnoresTokens {σ ρ : Type} (view : σ → ρ) (function : NativeFunction σ) : Prop :=
  ∀ c c' : Call, c.withoutToken = c'.withoutToken →
    Indistinguishable view (function c) (function c')

/-- Whether all functions of an environment ignore tokens. -/
def Environment.IgnoresTokens {σ ρ : Type} (view : σ → ρ) (env : Environment σ) : Prop :=
  ∀ name function, env.get name = some (.function function) →
    NativeFunction.IgnoresTokens view function

/-- The view of a state with a record of calls, in which these have no tokens. -/
def recordView {σ ρ : Type} (view : σ → ρ) : σ × List Call → ρ × List Call :=
  Prod.map view (List.map Call.withoutToken)

variable {σ ρ : Type} {view : σ → ρ} {env : Environment σ}

/-- A function that ignores tokens ignores them on the record too. -/
theorem NativeFunction.IgnoresTokens.recorded {function : NativeFunction σ}
    (h : IgnoresTokens view function) : IgnoresTokens (recordView view) function.recorded := by
  rintro c c' hc ⟨s, calls⟩ ⟨t, calls'⟩ hst
  obtain ⟨hview, hcalls⟩ := Prod.mk.inj hst
  have hrecord : (c :: calls).map Call.withoutToken = (c' :: calls').map Call.withoutToken := by
    rw [List.map_cons, List.map_cons, hc, hcalls]
  rcases cases_of_seen_eq (h c c' hc s t hview) with
    ⟨v, s', t', hs, ht, hview'⟩ | ⟨e, s', t', hs, ht, hview'⟩
  · simp only [NativeFunction.recorded, hs, ht]
    exact congrArg (EStateM.Result.ok v) (Prod.ext hview' hrecord)
  · simp only [NativeFunction.recorded, hs, ht]
    exact congrArg (EStateM.Result.error e) (Prod.ext hview' hrecord)

theorem Environment.IgnoresTokens.recorded (h : env.IgnoresTokens view) :
    env.recorded.IgnoresTokens (recordView view) := by
  intro name function hfunction
  obtain ⟨F, hF, rfl⟩ := exists_function_of_recorded hfunction
  exact (h name F hF).recorded

/-! ### Evaluations under different tokens -/

namespace Formula

open SheetFormula.Evaluation

variable (token token' : Option CancellationToken)

theorem indistinguishable_ofResult {α : Type} (r : Except RuntimeError α) :
    Indistinguishable view (ofResult r : Evaluation σ α) (ofResult r) := by
  cases r with
  | ok a => exact .pure a
  | error e => exact .throw e

theorem indistinguishable_demand (construct : Construct) (v : Value) :
    Indistinguishable view (demand construct v : Evaluation σ Bool) (demand construct v) := by
  cases v with
  | boolean b => exact .pure b
  | text _ | number _ => exact .throw _

theorem indistinguishable_resolve (env : Environment σ) (name : String) :
    Indistinguishable view (resolve env name) (resolve env name) := by
  unfold resolve
  split
  · exact .pure _
  · exact .throw _
  · exact .throw _

theorem indistinguishable_invoke {function : NativeFunction σ}
    (h : NativeFunction.IgnoresTokens view function) (name : String) (values : List Value) :
    Indistinguishable view (invoke function ⟨name, values, token⟩)
      (invoke function ⟨name, values, token'⟩) := by
  intro s t hst
  unfold invoke
  rcases cases_of_seen_eq (h ⟨name, values, token⟩ ⟨name, values, token'⟩ rfl s t hst) with
    ⟨v, s', t', hs, ht, hview⟩ | ⟨e, s', t', hs, ht, hview⟩
  · rw [hs, ht]
    exact congrArg (EStateM.Result.ok v) hview
  · rw [hs, ht]
    exact congrArg (EStateM.Result.error (RuntimeError.function name e)) hview

/-- A call cannot be told apart if its arguments cannot. -/
theorem indistinguishable_call (h : env.IgnoresTokens view) {name : String}
    {arguments : List Formula}
    (harguments : Indistinguishable view (evaluateAll env token arguments)
      (evaluateAll env token' arguments)) :
    Indistinguishable view ((call name arguments).evaluate env token)
      ((call name arguments).evaluate env token') := by
  rw [evaluate, evaluate, resolveFunction]
  split
  · next function hfunction =>
    rw [pure_bind, pure_bind]
    exact harguments.bind fun values =>
      indistinguishable_invoke token token' (h name function hfunction) name values
  · exact .throw (RuntimeError.notAFunction name)
  · exact .throw (RuntimeError.unknownFunction name)

mutual

/-- **Where functions ignore tokens, so do evaluations.** -/
theorem indistinguishable_evaluate (h : env.IgnoresTokens view) : (f : Formula) →
    Indistinguishable view (f.evaluate env token) (f.evaluate env token')
  | .literal v => .pure v
  | .reference name => indistinguishable_resolve env name
  | .call _ arguments =>
    indistinguishable_call token token' h (indistinguishable_evaluateAll h arguments)
  | .negation operand =>
    (indistinguishable_evaluate h operand).bind fun v =>
      (indistinguishable_demand _ v).bind fun _ => .pure _
  | .binary op left right =>
    (indistinguishable_evaluate h left).bind fun a =>
      (indistinguishable_ofResult (op.accept a)).bind fun _ =>
        (indistinguishable_evaluate h right).bind fun b => indistinguishable_ofResult (op.apply a b)
  | .junction kind operands => indistinguishable_evaluateJunction h kind operands
  | .conditional condition onTrue onFalse =>
    (indistinguishable_evaluate h condition).bind fun v =>
      (indistinguishable_demand _ v).bind fun _ =>
        .ite (indistinguishable_evaluate h onTrue) (indistinguishable_evaluate h onFalse)

theorem indistinguishable_evaluateAll (h : env.IgnoresTokens view) : (fs : List Formula) →
    Indistinguishable view (evaluateAll env token fs) (evaluateAll env token' fs)
  | [] => .pure []
  | f :: fs =>
    (indistinguishable_evaluate h f).bind fun v =>
      (indistinguishable_evaluateAll h fs).bind fun vs => .pure (v :: vs)

theorem indistinguishable_evaluateJunction (h : env.IgnoresTokens view) (kind : Junction) :
    (fs : List Formula) →
    Indistinguishable view (evaluateJunction env token kind fs)
      (evaluateJunction env token' kind fs)
  | [] => .pure (Value.boolean kind.neutral)
  | f :: fs =>
    (indistinguishable_evaluate h f).bind fun v =>
      (indistinguishable_demand _ v).bind fun b =>
        .ite (indistinguishable_evaluateJunction h kind fs) (.pure (Value.boolean b))

end

variable {token token'} {f : Formula} {s t : σ}

/-- What is seen of a record are its calls without their tokens. -/
theorem map_withoutToken_recordOf {r r' : EStateM.Result RuntimeError (σ × List Call) Value}
    (h : seen (recordView view) r = seen (recordView view) r') :
    (recordOf r).map Call.withoutToken = (recordOf r').map Call.withoutToken := by
  rcases cases_of_seen_eq h with ⟨v, s, t, rfl, rfl, hview⟩ | ⟨e, s, t, rfl, rfl, hview⟩
  · exact congrArg Prod.snd hview
  · exact congrArg Prod.snd hview

/-- Where functions ignore tokens, the same calls are made but for their tokens. -/
theorem map_withoutToken_trace (h : env.IgnoresTokens view) (hst : view s = view t) :
    (f.trace env token s).map Call.withoutToken = (f.trace env token' t).map Call.withoutToken := by
  have hview : recordView view (s, []) = recordView view (t, []) := Prod.ext hst rfl
  have hrecord := indistinguishable_evaluate token token' h.recorded f (s, []) (t, []) hview
  rw [trace, trace, List.map_reverse, List.map_reverse, map_withoutToken_recordOf hrecord]

end Formula

/-! ### Expressions -/

namespace Expression

open SheetFormula.Evaluation

/-- The value of an expression under a cancellation token, if there is one. -/
def evaluateUnder (env : Environment σ) (e : Expression) :
    Option CancellationToken → Evaluation σ Value
  | none => e.evaluate env
  | some token => e.evaluateWith env token

/-- The calls that the evaluation of an expression makes under a token, if there is one. -/
def callsUnder (env : Environment σ) (e : Expression) (token : Option CancellationToken) (s : σ) :
    List Call :=
  (recordOf (e.evaluateUnder env.recorded token (s, []))).reverse

theorem evaluateUnder_eq (env : Environment σ) (e : Expression) (token : Option CancellationToken) :
    e.evaluateUnder env token = e.root.evaluate env token := by
  cases token <;> rfl

theorem callsUnder_eq (env : Environment σ) (e : Expression) (token : Option CancellationToken)
    (s : σ) : e.callsUnder env token s = e.root.trace env token s := by
  rw [callsUnder, evaluateUnder_eq, Formula.trace]

/-- **A token is handed on and never looked at.** All calls of an evaluation have the token that it
was started with, and none if it was started with none. If no function lets its result or what it
does to the state in view depend on the token, the value or error, the calls but for their tokens
and the state in view are the same under each token and under none, whatever the host knows about
tokens: whether they are live, have been cancelled before, or are cancelled meanwhile. -/
theorem token_handed_on (env : Environment σ) (e : Expression) :
    (∀ token s, ∀ c ∈ e.callsUnder env token s, c.cancellation = token) ∧
    ∀ {ρ : Type} (view : σ → ρ), env.IgnoresTokens view → ∀ token token' s t, view s = view t →
      seen view (e.evaluateUnder env token s) = seen view (e.evaluateUnder env token' t) ∧
        (e.callsUnder env token s).map Call.withoutToken =
          (e.callsUnder env token' t).map Call.withoutToken := by
  refine ⟨fun token s c hc => ?_, fun view h token token' s t hst => ⟨?_, ?_⟩⟩
  · rw [callsUnder_eq] at hc
    obtain ⟨p, _, _, -, -, htoken, -⟩ := Formula.exists_calledAt_of_mem_trace hc
    exact htoken
  · rw [evaluateUnder_eq, evaluateUnder_eq]
    exact Formula.indistinguishable_evaluate token token' h e.root s t hst
  · rw [callsUnder_eq, callsUnder_eq]
    exact Formula.map_withoutToken_trace h hst

/-- An environment in which every name is that of a function that returns true. The host counts how
often they run, and it keeps a list of the tokens that have been cancelled: `CANCEL` cancels the one
that it is handed. -/
def cancelling : Environment (Nat × List CancellationToken) :=
  ⟨fun name => some (.function fun c (n, cancelled) => .ok (.boolean true)
    (n + 1, if name = "CANCEL" then c.cancellation.toList ++ cancelled else cancelled))⟩

theorem cancelling_ignoresTokens : cancelling.IgnoresTokens Prod.fst := by
  intro name function hfunction c c' _ s t hst
  cases hfunction
  exact congrArg (fun n => EStateM.Result.ok (Value.boolean true) (n + 1)) hst

/-- In `F(CANCEL();A())` all functions get the token of the caller. It makes no difference to the
value or to the count whether there is no token, one that `CANCEL` cancels, or one that has been
cancelled before. -/
theorem token_handed_on_cancelled :
    let e : Expression := ⟨.call "F" [.call "CANCEL" [], .call "A" []]⟩
    let token : CancellationToken := ⟨7⟩
    cancelling.IgnoresTokens Prod.fst ∧
      e.evaluate cancelling (0, []) = .ok (.boolean true) (3, []) ∧
      e.evaluateWith cancelling token (0, []) = .ok (.boolean true) (3, [token]) ∧
      seen Prod.fst (e.evaluateUnder cancelling (some token) (0, [token])) =
        .ok (.boolean true) 3 ∧
      (e.callsUnder cancelling (some token) (0, [])).length = 3 ∧
      (∀ c ∈ e.callsUnder cancelling (some token) (0, []), c.cancellation = some token) ∧
      (e.callsUnder cancelling (some token) (0, [token])).map Call.withoutToken =
        (e.callsUnder cancelling none (0, [])).map Call.withoutToken := by
  intro e token
  obtain ⟨hhanded, hunseen⟩ := token_handed_on cancelling e
  obtain ⟨hvalue, hcalls⟩ := hunseen Prod.fst cancelling_ignoresTokens (some token) none
    (0, [token]) (0, []) rfl
  exact ⟨cancelling_ignoresTokens, rfl, rfl, hvalue.trans rfl, rfl, hhanded (some token) (0, []),
    hcalls⟩

end Expression

end SheetFormula
