import SheetFormula.Proofs.Evaluation.CallOrder

/-!
# The names that an evaluation looks up

An environment matters to a formula through what it binds the names of the formula to
(`Formula.names`), and through nothing else. More than that, a name that is not bound can do no more
than end the evaluation with an error that says so: an environment that binds more names than
another one has the same outcome wherever the other one does not end in such an error
(`Formula.agrees_evaluate`). The calls on record are part of the outcome, since a record is kept in
the state (`Environment.Cures.recorded`).

Layers within layers are looked through in the order in which they would be side by side, so it
makes no difference how they are put together (`Environment.layers_inline`).
-/

namespace SheetFormula

/-! ### The names of a formula -/

namespace Formula

mutual

/-- The names that occur in a formula, those of references and of calls, from left to right. -/
def names : Formula → List String
  | .literal _ => []
  | .reference name => [name]
  | .call name arguments => name :: namesAmong arguments
  | .negation operand => names operand
  | .binary _ left right => names left ++ names right
  | .junction _ operands => namesAmong operands
  | .conditional condition onTrue onFalse => names condition ++ (names onTrue ++ names onFalse)

/-- The names that occur in a list of formulas. -/
def namesAmong : List Formula → List String
  | [] => []
  | f :: fs => names f ++ namesAmong fs

end

end Formula

/-- Whether a runtime error says that a name is **unknown**. -/
def RuntimeError.IsUnknown (e : RuntimeError) : Prop :=
  ∃ name, e = .unknownIdentifier name ∨ e = .unknownFunction name

/-! ### Environments compared -/

namespace Environment

variable {σ : Type} {env env' : Environment σ} {name : String}

/-- At a name `env'` **cures** `env` of errors: it binds the name to the same, or it is free to bind
it, because `env` does not and has the errors that come of this excused. -/
def Cures (excused : RuntimeError → Prop) (env env' : Environment σ) (name : String) : Prop :=
  env'.get name = env.get name ∨
    env.get name = none ∧ excused (.unknownIdentifier name) ∧ excused (.unknownFunction name)

/-- An environment **extends** another one if it binds all names to the same that the other one
binds. -/
def Extends (env' env : Environment σ) : Prop :=
  ∀ name binding, env.get name = some binding → env'.get name = some binding

/-- Where functions are recorded no names are bound that were not. -/
theorem Cures.recorded {excused : RuntimeError → Prop} (h : Cures excused env env' name) :
    Cures excused env.recorded env'.recorded name := by
  rcases h with heq | ⟨hnone, hexcused⟩
  · refine .inl ?_
    rw [recorded_get, recorded_get, heq]
  · refine .inr ⟨?_, hexcused⟩
    rw [recorded_get, hnone, Option.map_none]

theorem Extends.cures (h : env'.Extends env) (name : String) :
    Cures RuntimeError.IsUnknown env env' name := by
  cases hname : env.get name with
  | none => exact .inr ⟨hname, ⟨name, .inl rfl⟩, ⟨name, .inr rfl⟩⟩
  | some binding => exact .inl ((h name binding hname).trans hname.symm)

theorem layers_get_append (front back : List (Environment σ)) (name : String) :
    (layers (front ++ back)).get name = ((layers front).get name).or ((layers back).get name) :=
  List.findSome?_append

theorem layers_get_cons (env : Environment σ) (back : List (Environment σ)) (name : String) :
    (layers (env :: back)).get name = (env.get name).or ((layers back).get name) := by
  change (env :: back).findSome? (fun e => e.get name) = _
  rw [List.findSome?_cons]
  cases env.get name <;> rfl

/-- Layers are extended by more of them behind. -/
theorem extends_layers_append (es more : List (Environment σ)) :
    (layers (es ++ more)).Extends (layers es) := by
  intro name binding h
  rw [layers_get_append, h, Option.some_or]

/-- **A layer that is made of layers** may be replaced by these. -/
theorem layers_inline (front inner back : List (Environment σ)) :
    layers (front ++ layers inner :: back) = layers (front ++ inner ++ back) := by
  have hget : ∀ name, (layers (front ++ layers inner :: back)).get name =
      (layers (front ++ inner ++ back)).get name := by
    intro name
    rw [layers_get_append, layers_get_cons, layers_get_append, layers_get_append, Option.or_assoc]
  exact congrArg Environment.mk (funext hget)

end Environment

/-! ### Evaluations compared -/

namespace Formula

open SheetFormula.Environment SheetFormula.Evaluation SheetFormula.Sequence

variable {σ : Type} {env env' : Environment σ} {excused : RuntimeError → Prop}
  (token : Option CancellationToken)

theorem agrees_resolve {name : String} (h : Cures excused env env' name) :
    AgreesButFor excused (resolve env name) (resolve env' name) := by
  rcases h with heq | ⟨hnone, hidentifier, -⟩
  · rw [resolve, resolve, heq]
    exact .refl _
  · rw [resolve, hnone]
    exact fun s => .inl ⟨_, s, rfl, hidentifier⟩

theorem agrees_resolveFunction {name : String} (h : Cures excused env env' name) :
    AgreesButFor excused (resolveFunction env name) (resolveFunction env' name) := by
  rcases h with heq | ⟨hnone, -, hfunction⟩
  · rw [resolveFunction, resolveFunction, heq]
    exact .refl _
  · rw [resolveFunction, hnone]
    exact fun s => .inl ⟨_, s, rfl, hfunction⟩

mutual

/-- **Names are all that matters**: two environments, one of which cures the other at the names of a
formula, have the same outcome but for the errors that are excused. -/
theorem agrees_evaluate : (f : Formula) → (∀ name ∈ f.names, Cures excused env env' name) →
    AgreesButFor excused (f.evaluate env token) (f.evaluate env' token)
  | .literal v, _ => .refl _
  | .reference name, h => agrees_resolve (h name (List.mem_singleton_self _))
  | .call name arguments, h => by
    obtain ⟨hname, harguments⟩ := List.forall_mem_cons.mp h
    refine .bind (agrees_resolveFunction hname) fun _ => ?_
    exact .bind (agrees_evaluateAll arguments harguments) fun _ => .refl _
  | .negation operand, h => .bind (agrees_evaluate operand h) fun _ => .refl _
  | .binary op left right, h => by
    obtain ⟨hleft, hright⟩ := List.forall_mem_append.mp h
    refine .bind (agrees_evaluate left hleft) fun _ => .bind (.refl _) fun _ => ?_
    exact .bind (agrees_evaluate right hright) fun _ => .refl _
  | .junction kind operands, h => agrees_evaluateJunction kind operands h
  | .conditional condition onTrue onFalse, h => by
    obtain ⟨hcondition, hbranches⟩ := List.forall_mem_append.mp h
    obtain ⟨htrue, hfalse⟩ := List.forall_mem_append.mp hbranches
    refine .bind (agrees_evaluate condition hcondition) fun _ => .bind (.refl _) fun _ => ?_
    exact .ite (agrees_evaluate onTrue htrue) (agrees_evaluate onFalse hfalse)

theorem agrees_evaluateAll : (fs : List Formula) →
    (∀ name ∈ namesAmong fs, Cures excused env env' name) →
    AgreesButFor excused (evaluateAll env token fs) (evaluateAll env' token fs)
  | [], _ => .refl _
  | f :: fs, h => by
    obtain ⟨hf, hfs⟩ := List.forall_mem_append.mp h
    refine .bind (agrees_evaluate f hf) fun _ => ?_
    exact .bind (agrees_evaluateAll fs hfs) fun _ => .refl _

theorem agrees_evaluateJunction (kind : Junction) : (fs : List Formula) →
    (∀ name ∈ namesAmong fs, Cures excused env env' name) →
    AgreesButFor excused (evaluateJunction env token kind fs) (evaluateJunction env' token kind fs)
  | [], _ => .refl _
  | f :: fs, h => by
    obtain ⟨hf, hfs⟩ := List.forall_mem_append.mp h
    refine .bind (agrees_evaluate f hf) fun _ => .bind (.refl _) fun _ => ?_
    exact .ite (agrees_evaluateJunction kind fs hfs) (.refl _)

end

variable {token} {f : Formula} {s : σ}

/-- The outcome of an evaluation and the calls that it makes agree together. -/
theorem evaluate_trace_eq (h : ∀ name ∈ f.names, Cures excused env env' name)
    (hrun : ∀ e t, f.evaluate env token s = .error e t → ¬ excused e) :
    f.evaluate env' token s = f.evaluate env token s ∧
      f.trace env' token s = f.trace env token s := by
  constructor
  · rcases agrees_evaluate token f h s with ⟨e, t, he, hexcused⟩ | heq
    · exact absurd hexcused (hrun e t he)
    · exact heq
  · rcases agrees_evaluate token f (fun name hname => (h name hname).recorded) (s, []) with
      ⟨e, t, he, hexcused⟩ | heq
    · refine absurd hexcused ?_
      rw [evaluate_recorded] at he
      cases hs : f.evaluate env token s with
      | ok v t' => simp [hs, withRecord] at he
      | error e' t' =>
        rw [hs] at he
        cases he
        exact hrun _ _ hs
    · rw [trace, trace, heq]

/-- **An environment matters through the names of the formula, and more bindings only cure unknown
names.** Two environments that agree on the names have the same outcome and make the same calls. An
environment that extends another one, for instance by more layers behind it, has the outcome of the
other one and makes its calls, unless the other one fails for an unknown name. And layers within
layers are as good as layers side by side. -/
theorem evaluate_names (f : Formula) (token : Option CancellationToken) :
    (∀ (env env' : Environment σ) (s : σ), (∀ name ∈ f.names, env'.get name = env.get name) →
      f.evaluate env' token s = f.evaluate env token s ∧
        f.trace env' token s = f.trace env token s) ∧
    (∀ (env env' : Environment σ) (s : σ), env'.Extends env →
      (∀ e t, f.evaluate env token s = .error e t → ¬ e.IsUnknown) →
      f.evaluate env' token s = f.evaluate env token s ∧
        f.trace env' token s = f.trace env token s) ∧
    (∀ es more : List (Environment σ), (layers (es ++ more)).Extends (layers es)) ∧
    ∀ (front inner back : List (Environment σ)) (s : σ),
      f.evaluate (layers (front ++ layers inner :: back)) token s =
          f.evaluate (layers (front ++ inner ++ back)) token s ∧
        f.trace (layers (front ++ layers inner :: back)) token s =
          f.trace (layers (front ++ inner ++ back)) token s := by
  refine ⟨fun env env' s h => ?_, fun env env' s h hrun => ?_, extends_layers_append,
    fun front inner back s => ?_⟩
  · have hcures : ∀ name ∈ f.names, Cures (fun _ => False) env env' name :=
      fun name hname => .inl (h name hname)
    exact evaluate_trace_eq hcures fun _ _ _ => not_false
  · exact evaluate_trace_eq (fun name _ => h.cures name) hrun
  · rw [layers_inline]
    exact ⟨rfl, rfl⟩

/-- The name `y` in the branch that is not taken is not bound, and nothing comes of what a second
layer or another environment would bind it to. -/
theorem evaluate_names_untaken :
    let f : Formula := .conditional (.literal (.boolean true)) (.reference "x") (.reference "y")
    let x : Environment Nat := (Bindings.ofList [("x", .value (.text "a"))]).toEnvironment
    f.evaluate (layers [x]) none 0 = .ok (.text "a") 0 ∧
      f.evaluate (layers [x, counted]) none 0 = .ok (.text "a") 0 ∧
      f.evaluate x none 0 = .ok (.text "a") 0 := by
  intro f x
  have hrun : f.evaluate (layers [x]) none 0 = .ok (.text "a") 0 := rfl
  obtain ⟨hsame, hmore, hextends, -⟩ := evaluate_names (σ := Nat) f none
  refine ⟨hrun, (hmore _ _ 0 (hextends [x] [counted]) ?_).1.trans hrun,
    (hsame (layers [x]) x 0 ?_).1.trans hrun⟩
  · intro e t he
    cases hrun.symm.trans he
  · intro name hname
    rw [layers_get_cons]
    exact (Option.or_none ..).symm

end Formula

end SheetFormula
