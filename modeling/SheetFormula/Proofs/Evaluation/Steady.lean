import SheetFormula.Proofs.BaseLibrary.Answers
import SheetFormula.Proofs.Evaluation.Names
import SheetFormula.Proofs.Formula.Position

/-!
# Evaluations that the state does not matter to

An action is **steady** if it has one outcome in all states and leaves each as it is. The state of
the host comes into an evaluation through the functions that are called and in no other way, so the
evaluation of a formula is steady if these functions are (`Formula.steady_evaluate`). Of the base
library all functions are but the one that draws its values (`BaseLibrary.steadyAt_environment`).
-/

namespace SheetFormula

/-! ### Steady actions -/

namespace Sequence

variable {ε σ α β : Type}

/-- The action with a given outcome, which leaves the state as it is. -/
def settled : Except ε α → EStateM ε σ α
  | .ok x => pure x
  | .error e => throw e

/-- Whether an action is **steady**: its outcome is the same in all states, which it leaves. -/
def Steady (a : EStateM ε σ α) : Prop := ∃ r, a = settled r

namespace Steady

variable {a : EStateM ε σ α} {f : α → EStateM ε σ β}

theorem pure (x : α) : Steady (Pure.pure x : EStateM ε σ α) := ⟨.ok x, rfl⟩

theorem throw (e : ε) : Steady (MonadExcept.throw e : EStateM ε σ α) := ⟨.error e, rfl⟩

theorem bind (ha : Steady a) (hf : ∀ x, Steady (f x)) : Steady (a >>= f) := by
  obtain ⟨r, rfl⟩ := ha
  cases r with
  | ok x =>
    rw [settled, pure_bind]
    exact hf x
  | error e => exact ⟨.error e, rfl⟩

theorem ite {c : Prop} [Decidable c] {b : EStateM ε σ α} (ha : Steady a) (hb : Steady b) :
    Steady (if c then a else b) := by
  split
  · exact ha
  · exact hb

/-- In all states there is one outcome. -/
theorem cases (h : Steady a) : (∃ x, ∀ s, a s = .ok x s) ∨ ∃ e, ∀ s, a s = .error e s := by
  obtain ⟨_ | _, rfl⟩ := h
  · exact .inr ⟨_, fun _ => rfl⟩
  · exact .inl ⟨_, fun _ => rfl⟩

end Steady

end Sequence

/-! ### Formulas -/

/-- Whether the function that a name is bound to, if it is bound to one, is steady. -/
def Environment.SteadyAt {σ : Type} (env : Environment σ) (name : String) : Prop :=
  ∀ function, env.get name = some (.function function) → ∀ c, Sequence.Steady (function c)

namespace Formula

/-- Whether a call of a name stands in a formula. -/
def Calls (f : Formula) (name : String) : Prop :=
  ∃ p arguments, f.at? p = some (.call name arguments)

open SheetFormula.Evaluation SheetFormula.Sequence

variable {σ : Type} {env : Environment σ} {f g : Formula} {name : String}

theorem Calls.child (hg : g ∈ f.children) (h : g.Calls name) : f.Calls name := by
  obtain ⟨i, hi⟩ := List.getElem?_of_mem hg
  obtain ⟨p, arguments, hp⟩ := h
  exact ⟨i :: p, arguments, (at?_cons_of_child hi).trans hp⟩

theorem steady_ofResult {α : Type} (r : Except RuntimeError α) :
    Steady (ofResult r : Evaluation σ α) := ⟨r, by cases r <;> rfl⟩

theorem steady_resolve (env : Environment σ) (name : String) : Steady (resolve env name) := by
  unfold resolve
  split
  · exact .pure _
  · exact .throw _
  · exact .throw _

theorem steady_demand (construct : Construct) (v : Value) :
    Steady (demand construct v : Evaluation σ Bool) := by
  cases v with
  | boolean b => exact .pure b
  | text _ | number _ => exact .throw _

theorem steady_invoke {function : NativeFunction σ} {c : Call} (h : Steady (function c)) :
    Steady (invoke function c) := by
  obtain ⟨r, hr⟩ := h
  unfold invoke
  rw [hr]
  cases r with
  | ok v => exact .pure v
  | error e => exact .throw (RuntimeError.function c.name e)

/-- A call is steady if its arguments are and the function that it finds is. -/
theorem steady_call {token : Option CancellationToken} {arguments : List Formula}
    (hname : env.SteadyAt name) (h : Steady (evaluateAll env token arguments)) :
    Steady ((call name arguments).evaluate env token) := by
  rw [evaluate, resolveFunction]
  split
  · next function hfunction =>
    rw [pure_bind]
    exact h.bind fun values => steady_invoke (hname function hfunction _)
  · exact .throw (RuntimeError.notAFunction name)
  · exact .throw (RuntimeError.unknownFunction name)

variable (env) (token : Option CancellationToken)

mutual

/-- **Evaluation is steady** if the functions are that are called in the formula. -/
theorem steady_evaluate : (f : Formula) → (∀ name, f.Calls name → env.SteadyAt name) →
    Steady (f.evaluate env token)
  | .literal v, _ => .pure v
  | .reference name, _ => steady_resolve env name
  | .call name arguments, h => by
    refine steady_call (h name ⟨[], arguments, rfl⟩) (steady_evaluateAll arguments ?_)
    exact fun g hg name hcalls => h name (hcalls.child hg)
  | .negation operand, h => by
    have hoperand := steady_evaluate operand fun name hcalls =>
      h name (hcalls.child (List.mem_singleton_self _))
    exact hoperand.bind fun v => (steady_demand _ v).bind fun b => .pure _
  | .binary op left right, h => by
    have hleft := steady_evaluate left fun name hcalls =>
      h name (hcalls.child (List.mem_cons_self ..))
    have hright := steady_evaluate right fun name hcalls =>
      h name (hcalls.child (List.mem_cons_of_mem _ (List.mem_singleton_self _)))
    exact hleft.bind fun a => (steady_ofResult _).bind fun _ =>
      hright.bind fun b => steady_ofResult _
  | .junction kind operands, h =>
    steady_evaluateJunction kind operands fun g hg name hcalls => h name (hcalls.child hg)
  | .conditional condition onTrue onFalse, h => by
    have hcondition := steady_evaluate condition fun name hcalls =>
      h name (hcalls.child (List.mem_cons_self ..))
    have htrue := steady_evaluate onTrue fun name hcalls =>
      h name (hcalls.child (List.mem_of_getElem? (i := 1) rfl))
    have hfalse := steady_evaluate onFalse fun name hcalls =>
      h name (hcalls.child (List.mem_of_getElem? (i := 2) rfl))
    exact hcondition.bind fun v => (steady_demand _ v).bind fun b => .ite htrue hfalse

theorem steady_evaluateAll : (fs : List Formula) →
    (∀ g ∈ fs, ∀ name, g.Calls name → env.SteadyAt name) → Steady (evaluateAll env token fs)
  | [], _ => .pure []
  | f :: fs, h => by
    obtain ⟨hf, hfs⟩ := List.forall_mem_cons.mp h
    exact (steady_evaluate f hf).bind fun v => (steady_evaluateAll fs hfs).bind fun vs => .pure _

theorem steady_evaluateJunction (kind : Junction) : (fs : List Formula) →
    (∀ g ∈ fs, ∀ name, g.Calls name → env.SteadyAt name) →
    Steady (evaluateJunction env token kind fs)
  | [], _ => .pure (Value.boolean kind.neutral)
  | f :: fs, h => by
    obtain ⟨hf, hfs⟩ := List.forall_mem_cons.mp h
    exact (steady_evaluate f hf).bind fun v => (steady_demand _ v).bind fun b =>
      .ite (steady_evaluateJunction kind fs hfs) (.pure _)

end

end Formula

/-! ### The base library -/

namespace Bindings

variable {σ : Type} {entries : List (String × Binding σ)} {name : String} {binding : Binding σ}

theorem mem_entries_insert {b : Bindings σ} {entry : String × Binding σ}
    (h : entry ∈ (b.insert name binding).entries) :
    entry = (name, binding) ∨ entry ∈ b.entries :=
  (List.mem_cons.mp h).imp_right fun h => (List.mem_filter.mp h).1

theorem mem_entries_foldl (b : Bindings σ) {entry : String × Binding σ}
    (h : entry ∈ (entries.foldl (fun b (name, binding) => b.insert name binding) b).entries) :
    entry ∈ entries ∨ entry ∈ b.entries := by
  induction entries generalizing b with
  | nil => exact .inr h
  | cons first rest ih =>
    rcases ih _ h with hrest | hinsert
    · exact .inl (List.mem_cons_of_mem _ hrest)
    · rcases mem_entries_insert hinsert with rfl | hb
      · exact .inl (List.mem_cons_self ..)
      · exact .inr hb

/-- What a name is bound to in the bindings of a list is bound to it there. -/
theorem mem_of_find?_ofList (h : (ofList entries).find? name = some binding) :
    (name, binding) ∈ entries :=
  (mem_entries_foldl empty (BaseLibrary.mem_of_lookup h)).resolve_right List.not_mem_nil

end Bindings

namespace BaseLibrary

variable {σ : Type} {draw : σ → Nat × σ} {name : String}

/-- Base functions that compute their value are steady. -/
theorem steady_computed (compute : Call → Computation Value) (c : Call) :
    Sequence.Steady ((BaseFunction.computed compute).native draw c) := by
  simp only [BaseFunction.native]
  rcases compute c with (e | _) | v
  · exact .throw (Failure.call e)
  · exact .throw (Failure.other _)
  · exact .pure v

/-- **All base functions are steady but the one that draws.** -/
theorem steadyAt_environment (h : name ≠ "RAND") : (environment draw).SteadyAt name := by
  intro function hfunction c
  obtain ⟨⟨_, f⟩, hentry, heq⟩ := List.mem_map.mp (Bindings.mem_of_find?_ofList hfunction)
  cases heq
  cases f with
  | computed compute => exact steady_computed compute c
  | random => exact absurd (eq_rand_of_random _ hentry rfl) h

end BaseLibrary

end SheetFormula
