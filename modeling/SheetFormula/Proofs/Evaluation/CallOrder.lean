import Mathlib.Data.List.Forall2
import SheetFormula.Evaluation.Recording
import SheetFormula.Proofs.Evaluation.Visit

/-!
# The order of the calls

An evaluation whose functions are recorded goes as it would without the record, and puts the calls
that it makes on record (`Formula.evaluate_recorded`). These calls are made at calls of the formula
which are visited in post-order, none of them twice, and each is made with the values of the
arguments that stand there; unless a part of the formula is left out, all calls are made in that
order; and when an error has arisen no call follows (`Formula.calls_in_postorder`).

`Evaluation.Logs` is the judgement that carries the induction: of an evaluation and its recorded
form it says which calls they make, at which of the positions that they are given. It goes through
sequences of evaluations (`Evaluation.Logs.bind`), so the proof for a node follows its evaluation.
-/

namespace SheetFormula

/-! ### Recorded evaluations -/

theorem Environment.recorded_get {σ : Type} (env : Environment σ) (name : String) :
    env.recorded.get name = (env.get name).map Binding.recorded := rfl

/-- A function that is found on the record is one of the environment, recorded. -/
theorem Environment.exists_function_of_recorded {σ : Type} {env : Environment σ} {name : String}
    {function : NativeFunction (σ × List Call)}
    (h : env.recorded.get name = some (.function function)) :
    ∃ F : NativeFunction σ, env.get name = some (.function F) ∧ F.recorded = function := by
  obtain ⟨b, hb, hrecorded⟩ := Option.map_eq_some_iff.mp h
  cases b with
  | value v => cases hrecorded
  | function F =>
    cases hrecorded
    exact ⟨F, hb, rfl⟩

namespace Evaluation

variable {σ α β : Type}

/-- The outcome of an evaluation with calls put on record beside the state. -/
def withRecord (calls : List Call) :
    EStateM.Result RuntimeError σ α → EStateM.Result RuntimeError (σ × List Call) α
  | .ok a s => .ok a (s, calls)
  | .error e s => .error e (s, calls)

/-- The calls on record when an evaluation has ended. -/
def recordOf : EStateM.Result RuntimeError (σ × List Call) α → List Call
  | .ok _ s => s.2
  | .error _ s => s.2

theorem recordOf_withRecord (calls : List Call) (r : EStateM.Result RuntimeError σ α) :
    recordOf (withRecord calls r) = calls := by
  cases r <;> rfl

/-- From the state `s` the evaluation `a` and its recorded form `b` **log** calls that are related
to some of the given positions, in their order, and to all of them if `a` has a result and nothing
may be left out. -/
def Logs (a : Evaluation σ α) (b : Evaluation (σ × List Call) α) (s : σ)
    (At : Call → Position → Prop) (sites : List Position) (whole : Prop) : Prop :=
  ∃ calls visited,
    (∀ before, b (s, before) = withRecord (calls.reverse ++ before) (a s)) ∧
    visited.Sublist sites ∧ List.Forall₂ At calls visited ∧
    (∀ x t, a s = .ok x t → whole → visited = sites)

namespace Logs

open SheetFormula.Sequence

variable {a a' : Evaluation σ α} {b b' : Evaluation (σ × List Call) α} {s : σ}
  {At At' : Call → Position → Prop} {sites sites' : List Position} {whole whole' : Prop}

/-- An evaluation that does nothing to the record logs no call. -/
theorem silent (h : ∀ before, b (s, before) = withRecord before (a s)) :
    Logs a b s At [] whole :=
  ⟨[], [], h, .slnil, .nil, fun _ _ _ _ => rfl⟩

theorem pure (x : α) : Logs (Pure.pure x) (Pure.pure x) s At [] whole :=
  silent fun _ => rfl

/-- A sequence logs what its first part does and then what its second part does. -/
theorem bind {f : α → Evaluation σ β} {g : α → Evaluation (σ × List Call) β}
    (ha : Logs a b s At sites whole)
    (hf : ∀ x t, a s = .ok x t → Logs (f x) (g x) t At sites' whole) :
    Logs (a >>= f) (b >>= g) s At (sites ++ sites') whole := by
  obtain ⟨calls, visited, hb, hvisited, hcalls, hwhole⟩ := ha
  cases hs : a s with
  | ok x t =>
    obtain ⟨calls', visited', hg, hvisited', hcalls', hwhole'⟩ := hf x t hs
    refine ⟨calls ++ calls', visited ++ visited', fun before => ?_, hvisited.append hvisited',
      List.rel_append hcalls hcalls', fun y u hy h => ?_⟩
    · have hfirst : b (s, before) = .ok x (t, calls.reverse ++ before) := by
        rw [hb, hs]
        rfl
      rw [bind_eq_of_ok hfirst, bind_eq_of_ok hs, hg, List.reverse_append, List.append_assoc]
    · rw [bind_eq_of_ok hs] at hy
      rw [hwhole x t hs h, hwhole' y u hy h]
  | error e t =>
    refine ⟨calls, visited, fun before => ?_, hvisited.trans (List.sublist_append_left ..), hcalls,
      fun y u hy _ => ?_⟩
    · have hfirst : b (s, before) = .error e (t, calls.reverse ++ before) := by
        rw [hb, hs]
        rfl
      rw [bind_eq_of_error hfirst, bind_eq_of_error hs]
      rfl
    · cases (bind_eq_of_error hs).symm.trans hy

/-- A sequence logs what its second part does when its first part logs no call. -/
theorem after {f : α → Evaluation σ β} {g : α → Evaluation (σ × List Call) β}
    (ha : Logs a b s At [] whole)
    (hf : ∀ x t, a s = .ok x t → Logs (f x) (g x) t At sites whole) :
    Logs (a >>= f) (b >>= g) s At sites whole :=
  ha.bind hf

/-- What a child logs its parent logs, below the place where the child stands. -/
theorem below {i : Nat} (h : Logs a b s At sites whole)
    (hAt : ∀ c p, At c p → At' c (i :: p)) (hwhole : whole' → whole) :
    Logs a b s At' (sites.map (List.cons i)) whole' := by
  obtain ⟨calls, visited, hb, hvisited, hcalls, hall⟩ := h
  refine ⟨calls, visited.map (List.cons i), hb, hvisited.map _,
    List.forall₂_map_right_iff.mpr (hcalls.imp hAt), fun x t hx hw => ?_⟩
  rw [hall x t hx (hwhole hw)]

/-- More positions are given where something may be left out. -/
theorem widen (h : Logs a b s At sites whole) (hsites : sites.Sublist sites')
    (hwhole : ¬ whole) : Logs a b s At sites' whole := by
  obtain ⟨calls, visited, hb, hvisited, hcalls, -⟩ := h
  exact ⟨calls, visited, hb, hvisited.trans hsites, hcalls, fun _ _ _ hw => absurd hw hwhole⟩

/-- An evaluation that fails at once logs no call, whatever the positions are. -/
theorem fails {e : RuntimeError} (ha : a s = .error e s)
    (hb : ∀ before, b (s, before) = .error e (s, before)) : Logs a b s At sites whole := by
  refine ⟨[], [], fun before => ?_, List.nil_sublist _, .nil, fun x t hx _ => ?_⟩
  · rw [hb, ha]
    rfl
  · cases ha.symm.trans hx

theorem ite {c : Prop} [Decidable c] (ha : c → Logs a b s At sites whole)
    (ha' : ¬ c → Logs a' b' s At sites whole) :
    Logs (if c then a else a') (if c then b else b') s At sites whole := by
  by_cases hc : c
  · simpa only [if_pos hc] using ha hc
  · simpa only [if_neg hc] using ha' hc

theorem demand (construct : Construct) (v : Value) :
    Logs (demand construct v) (demand construct v) s At [] whole :=
  silent fun _ => by cases v <;> rfl

theorem ofResult (x : Except RuntimeError α) :
    Logs (ofResult x) (ofResult x) s At [] whole :=
  silent fun _ => by cases x <;> rfl

/-- A function logs its own call. -/
theorem invoke {function : NativeFunction σ} {c : Call} {p : Position} (hc : At c p) :
    Logs (invoke function c) (invoke (NativeFunction.recorded function) c) s At [p] whole := by
  refine ⟨[c], [p], fun before => ?_, .refl _, .cons hc .nil, fun _ _ _ _ => rfl⟩
  cases hcall : function c s <;> simp only [Evaluation.invoke, NativeFunction.recorded, hcall] <;>
    rfl

end Logs

end Evaluation

/-! ### Calls at positions -/

namespace Formula

open SheetFormula.Evaluation SheetFormula.Sequence

variable {σ : Type}

/-- Whether a part of the formula may be left out although nothing fails. -/
def isLazy : Formula → Bool
  | .junction _ _ | .conditional _ _ _ => true
  | _ => false

/-- Whether a formula is **straight**: nothing in it is a junction or a conditional. -/
def Straight (f : Formula) : Prop := ∀ p g, f.at? p = some g → g.isLazy = false

/-- In the evaluation of a formula from a state the call `c` is **made at** a position: a call by
the name of `c`, which is that of a function, is visited there, and the values of `c` are those of
the arguments there, each as it was when it was visited. -/
def CalledAt (env : Environment σ) (token : Option CancellationToken) (f : Formula) (s : σ)
    (c : Call) (p : Position) : Prop :=
  ∃ arguments s₁, f.Visits env token s p (.call c.name arguments) s₁ ∧
    (∃ function, env.get c.name = some (.function function)) ∧ c.cancellation = token ∧
    c.values.length = arguments.length ∧
    ∀ i g, arguments[i]? = some g → ∃ v s₂ s₃, f.Visits env token s (p ++ [i]) g s₂ ∧
      g.evaluate env token s₂ = .ok v s₃ ∧ c.values[i]? = some v

/-- The calls that an evaluation makes, the first one first. -/
def trace (env : Environment σ) (token : Option CancellationToken) (f : Formula) (s : σ) :
    List Call :=
  (recordOf (f.evaluate env.recorded token (s, []))).reverse

variable {env : Environment σ} {token : Option CancellationToken} {f g : Formula}
  {fs : List Formula} {s s₁ : σ} {i : Nat} {c : Call} {p : Position}

theorem Straight.child (h : f.Straight) (hg : f.children[i]? = some g) : g.Straight :=
  fun p u hu => h (i :: p) u ((at?_cons_of_child hg).trans hu)

theorem straight_iff : f.Straight ↔ f.isLazy = false ∧ ∀ g ∈ f.children, g.Straight := by
  constructor
  · intro h
    refine ⟨h [] f rfl, fun g hg => ?_⟩
    obtain ⟨i, hi⟩ := List.mem_iff_getElem?.mp hg
    exact h.child hi
  · rintro ⟨hroot, hchildren⟩ p u hu
    cases p with
    | nil =>
      cases hu
      exact hroot
    | cons i p =>
      obtain ⟨g, hg, hu⟩ := Option.bind_eq_some_iff.mp (at?_cons.symm.trans hu)
      exact hchildren g (List.mem_of_getElem? hg) p u hu

/-- Where a child is entered its calls are calls of the formula. -/
theorem CalledAt.enter (henters : f.Enters env token s i g s₁)
    (h : g.CalledAt env token s₁ c p) : f.CalledAt env token s c (i :: p) := by
  obtain ⟨arguments, s₂, hvisits, hname, htoken, hlength, hvalues⟩ := h
  refine ⟨arguments, s₂, .enter henters hvisits, hname, htoken, hlength, fun j u hu => ?_⟩
  obtain ⟨v, s₃, s₄, hargument, hv, hget⟩ := hvalues j u hu
  exact ⟨v, s₃, s₄, .enter henters hargument, hv, hget⟩

/-- The values of a list of formulas are those of each of them, where it is entered. -/
theorem entersAmong_of_evaluateAll {values : List Value}
    (h : evaluateAll env token fs s = .ok values s₁) :
    values.length = fs.length ∧
      ∀ i g, fs[i]? = some g → ∃ v s₂ s₃, EntersAmong env token (fun _ => True) fs s i g s₂ ∧
        g.evaluate env token s₂ = .ok v s₃ ∧ values[i]? = some v := by
  induction fs generalizing s values with
  | nil =>
    cases h
    exact ⟨rfl, fun i g hg => by simp at hg⟩
  | cons f fs ih =>
    rw [evaluateAll] at h
    obtain ⟨v, s', hf, hrest⟩ := exists_of_bind_eq_ok h
    obtain ⟨vs, s'', hfs, hpure⟩ := exists_of_bind_eq_ok hrest
    cases hpure
    obtain ⟨hlength, hvalues⟩ := ih hfs
    refine ⟨congrArg (· + 1) hlength, fun i g hg => ?_⟩
    cases i with
    | zero =>
      cases hg
      exact ⟨v, s, s', .first, hf, rfl⟩
    | succ i =>
      obtain ⟨w, s₂, s₃, hentered, hw, hget⟩ := hvalues i g hg
      exact ⟨w, s₂, s₃, .later hf trivial hentered, hw, hget⟩

theorem calledAt_root {name : String} {arguments : List Formula} {function : NativeFunction σ}
    {values : List Value} (hname : env.get name = some (.function function))
    (h : evaluateAll env token arguments s = .ok values s₁) :
    (call name arguments).CalledAt env token s ⟨name, values, token⟩ [] := by
  obtain ⟨hlength, hvalues⟩ := entersAmong_of_evaluateAll h
  refine ⟨arguments, s, .root, ⟨function, hname⟩, rfl, hlength, fun i g hg => ?_⟩
  obtain ⟨v, s₂, s₃, hentered, hv, hget⟩ := hvalues i g hg
  exact ⟨v, s₂, s₃, .enter (.argument hname hentered) .root, hv, hget⟩

/-! ### The calls of an evaluation -/

/-- What the evaluations of a formula log at its calls. -/
def LogsCalls (env : Environment σ) (token : Option CancellationToken) (f : Formula) : Prop :=
  ∀ s, Logs (f.evaluate env token) (f.evaluate env.recorded token) s (f.CalledAt env token s)
    f.callSites f.Straight

/-- A child logs for its parent when it is entered. -/
theorem LogsCalls.child (hg : g.LogsCalls env token) (henters : f.Enters env token s i g s₁) :
    Logs (g.evaluate env token) (g.evaluate env.recorded token) s₁ (f.CalledAt env token s)
      (g.callSites.map (List.cons i)) f.Straight :=
  (hg s₁).below (fun _ _ => .enter henters) fun h => h.child henters.child

/-- The arguments from place `i` on log for the call that they belong to. -/
theorem logs_evaluateAll (hfs : ∀ g ∈ fs, g.LogsCalls env token)
    (henters : ∀ j g t, EntersAmong env token (fun _ => True) fs s j g t →
      f.Enters env token s₁ (i + j) g t) :
    Logs (evaluateAll env token fs) (evaluateAll env.recorded token fs) s
      (f.CalledAt env token s₁) (callSitesAmong i fs) f.Straight := by
  induction fs generalizing i s with
  | nil => exact .pure []
  | cons g fs ih =>
    obtain ⟨hg, hfs⟩ := List.forall_mem_cons.mp hfs
    rw [evaluateAll, evaluateAll, callSitesAmong]
    refine (hg.child (henters 0 g s .first)).bind fun v t hv => ?_
    have hrest := ih hfs fun j h u hentered =>
      (Nat.add_right_comm i 1 j ▸ henters (j + 1) h u (.later hv trivial hentered))
    simpa only [List.append_nil] using hrest.bind fun vs _ _ => .pure (v :: vs)

/-- The operands from place `i` on log for the junction that they belong to. -/
theorem logs_evaluateJunction {kind : Junction} (hlazy : ¬ f.Straight)
    (hfs : ∀ g ∈ fs, g.LogsCalls env token)
    (henters : ∀ j g t, EntersAmong env token (· = .boolean kind.neutral) fs s j g t →
      f.Enters env token s₁ (i + j) g t) :
    Logs (evaluateJunction env token kind fs) (evaluateJunction env.recorded token kind fs) s
      (f.CalledAt env token s₁) (callSitesAmong i fs) f.Straight := by
  induction fs generalizing i s with
  | nil => exact .pure _
  | cons g fs ih =>
    obtain ⟨hg, hfs⟩ := List.forall_mem_cons.mp hfs
    rw [evaluateJunction, evaluateJunction, callSitesAmong]
    refine (hg.child (henters 0 g s .first)).bind fun v t hv => ?_
    refine (Logs.demand _ v).after fun b u hb => .ite (fun hneutral => ?_) fun _ => ?_
    · obtain ⟨rfl, rfl⟩ := demand_eq_ok hb
      refine ih hfs fun j h w hentered => ?_
      have hlater := henters (j + 1) h w (.later hv (congrArg Value.boolean hneutral) hentered)
      exact Nat.add_right_comm i 1 j ▸ hlater
    · exact (Logs.pure _).widen (List.nil_sublist _) hlazy

theorem logs_resolve (name : String) {At : Call → Position → Prop} {whole : Prop} :
    Logs (resolve env name) (resolve env.recorded name) s At [] whole := by
  refine .silent fun before => ?_
  rw [resolve, resolve, env.recorded_get]
  rcases env.get name with _ | v | function <;> rfl

/-- A name is that of a function, or it is refused with one error with and without a record. -/
theorem function_or_refused (env : Environment σ) (name : String) :
    (∃ function, env.get name = some (.function function)) ∨
      ∃ e, resolveFunction env name = throw e ∧ resolveFunction env.recorded name = throw e := by
  have hrecorded := env.recorded_get name
  rcases hname : env.get name with _ | v | function <;> rw [hname] at hrecorded
  · refine .inr ⟨.unknownFunction name, ?_, ?_⟩
    · rw [resolveFunction, hname]
    · rw [resolveFunction, hrecorded, Option.map_none]
  · refine .inr ⟨.notAFunction name, ?_, ?_⟩
    · rw [resolveFunction, hname]
    · rw [resolveFunction, hrecorded, Option.map_some, Binding.recorded]
  · exact .inl ⟨function, rfl⟩

theorem logsCalls_call {name : String} (hfs : ∀ g ∈ fs, g.LogsCalls env token) :
    (call name fs).LogsCalls env token := by
  intro s
  rw [evaluate, evaluate, callSites]
  rcases function_or_refused env name with ⟨function, hname⟩ | ⟨e, hrefused, hrefused'⟩
  · have hrecorded : env.recorded.get name = some (.function function.recorded) := by
      rw [env.recorded_get, hname]
      rfl
    rw [resolveFunction_eq hname, resolveFunction_eq hrecorded, pure_bind, pure_bind]
    refine (logs_evaluateAll hfs fun j g t hentered => ?_).bind fun values t hvalues => ?_
    · rw [Nat.zero_add]
      exact .argument hname hentered
    · exact .invoke (calledAt_root hname hvalues)
  · rw [hrefused, hrefused']
    exact .fails rfl fun _ => rfl

theorem logsCalls_negation (hf : f.LogsCalls env token) : (negation f).LogsCalls env token := by
  intro s
  rw [evaluate, evaluate, callSites]
  have hoperand := (hf.child .negated (f := negation f) (s := s)).bind fun v _ _ =>
    (Logs.demand .negation v).after fun b _ _ => .pure (Value.boolean !b)
  simpa only [List.append_nil] using hoperand

theorem logsCalls_binary {op : Operator} (hf : f.LogsCalls env token)
    (hg : g.LogsCalls env token) : (binary op f g).LogsCalls env token := by
  intro s
  rw [evaluate, evaluate, callSites]
  refine (hf.child .left).bind fun v t hv => ?_
  refine (Logs.ofResult (op.accept v)).after fun _ u hu => ?_
  obtain ⟨haccept, rfl⟩ := ofResult_eq_ok hu
  have hright := (hg.child (.right hv haccept)).bind fun w _ _ => .ofResult (op.apply v w)
  simpa only [List.append_nil] using hright

theorem logsCalls_junction {kind : Junction} (hfs : ∀ g ∈ fs, g.LogsCalls env token) :
    (junction kind fs).LogsCalls env token := by
  intro s
  rw [evaluate, evaluate, callSites]
  have hlazy : ¬ (junction kind fs).Straight := fun h => Bool.noConfusion (h [] _ rfl)
  refine logs_evaluateJunction hlazy hfs fun j g t hentered => ?_
  rw [Nat.zero_add]
  exact .joined hentered

theorem logsCalls_conditional {h : Formula} (hf : f.LogsCalls env token)
    (hg : g.LogsCalls env token) (hh : h.LogsCalls env token) :
    (conditional f g h).LogsCalls env token := by
  intro s
  rw [evaluate, evaluate, callSites]
  have hlazy : ¬ (conditional f g h).Straight := fun hs => Bool.noConfusion (hs [] _ rfl)
  refine (hf.child .condition).bind fun v t hv => ?_
  refine (Logs.demand .conditional v).after fun b u hb => ?_
  obtain ⟨rfl, rfl⟩ := demand_eq_ok hb
  refine .ite (fun htrue => ?_) fun hfalse => ?_
  · subst htrue
    exact (hg.child (.onTrue hv)).widen (List.sublist_append_left ..) hlazy
  · obtain rfl := Bool.eq_false_iff.mpr hfalse
    exact (hh.child (.onFalse hv)).widen (List.sublist_append_right ..) hlazy

/-- **Every evaluation logs its calls.** -/
theorem logsCalls (env : Environment σ) (token : Option CancellationToken) (f : Formula) :
    f.LogsCalls env token := by
  induction f using childInduction with
  | node f ih =>
    cases f with
    | literal v => exact fun s => .pure v
    | reference name =>
      intro s
      rw [evaluate, evaluate]
      exact logs_resolve name
    | call name arguments => exact logsCalls_call ih
    | negation f => exact logsCalls_negation (ih f (.head _))
    | binary op f g => exact logsCalls_binary (ih f (.head _)) (ih g (.tail _ (.head _)))
    | junction kind operands => exact logsCalls_junction ih
    | conditional f g h =>
      exact logsCalls_conditional (ih f (.head _)) (ih g (.tail _ (.head _)))
        (ih h (.tail _ (.tail _ (.head _))))

/-- **A record changes nothing**: the result, the error and the state of the host are as they are
without it, and the calls of the evaluation are put before those that were on record. -/
theorem evaluate_recorded (env : Environment σ) (token : Option CancellationToken) (f : Formula)
    (s : σ) (before : List Call) :
    f.evaluate env.recorded token (s, before) =
      withRecord ((f.trace env token s).reverse ++ before) (f.evaluate env token s) := by
  obtain ⟨calls, visited, hrun, -⟩ := f.logsCalls env token s
  rw [trace, hrun [], recordOf_withRecord, List.append_nil, List.reverse_reverse, hrun]

/-- Every call that an evaluation makes is made at some position. -/
theorem exists_calledAt_of_mem_trace (hc : c ∈ f.trace env token s) :
    ∃ p, f.CalledAt env token s c p := by
  obtain ⟨calls, sites, hrun, -, hcalls, -⟩ := f.logsCalls env token s
  have htrace : f.trace env token s = calls := by
    rw [trace, hrun [], recordOf_withRecord, List.append_nil, List.reverse_reverse]
  rw [htrace] at hc
  have hboth := hcalls.imp fun c p h => And.intro (Exists.intro p h) h
  exact ((List.forall₂_and_left calls sites).mp hboth).1 c hc

/-- **Calls are made in post-order**, from left to right, and none of them twice: the calls that an
evaluation makes are made at some of the calls of the formula, in the order in which these are
listed, each with its name and with the values that its arguments have there. They are made at all
of them when the evaluation has a result and the formula is straight. An error arises when all calls
have been made. -/
theorem calls_in_postorder (env : Environment σ) (token : Option CancellationToken) (f : Formula)
    (s : σ) :
    f.callSites.Nodup ∧
    (∃ sites, sites.Sublist f.callSites ∧
      List.Forall₂ (f.CalledAt env token s) (f.trace env token s) sites) ∧
    (∀ v s', f.evaluate env token s = .ok v s' → f.Straight →
      List.Forall₂ (f.CalledAt env token s) (f.trace env token s) f.callSites) ∧
    (∀ e s', f.evaluate env token s = .error e s' →
      ∃ p g t, f.Visits env.recorded token (s, []) p g t ∧
        g.Raises env.recorded token t e (s', (f.trace env token s).reverse)) := by
  obtain ⟨calls, sites, hrun, hsites, hcalls, hall⟩ := f.logsCalls env token s
  have htrace : f.trace env token s = calls := by
    rw [trace, hrun [], recordOf_withRecord, List.append_nil, List.reverse_reverse]
  rw [htrace]
  refine ⟨f.nodup_callSites, ⟨sites, hsites, hcalls⟩, fun v s' hv hstraight => ?_,
    fun e s' he => ?_⟩
  · exact hall v s' hv hstraight ▸ hcalls
  · refine evaluate_eq_error_iff.mp ?_
    rw [hrun [], he, List.append_nil]
    rfl

/-- An environment in which every name is that of a function. The function `FAIL` fails, all others
return their name, and the host counts how often they run. -/
def counted : Environment Nat :=
  ⟨fun name => some (.function fun _ n =>
    if name = "FAIL" then .error (.other "refused") (n + 1) else .ok (.text name) (n + 1))⟩

/-- `F(A();B())` calls `A`, then `B` and then `F` with what they return, and `F(FAIL();B())` ends
with the call of `FAIL`. -/
theorem calls_in_postorder_nested :
    (call "F" [call "A" [], call "B" []]).evaluate counted none 0 = .ok (.text "F") 3 ∧
    (call "F" [call "A" [], call "B" []]).Straight ∧
    List.Forall₂ ((call "F" [call "A" [], call "B" []]).CalledAt counted none 0)
      [⟨"A", [], none⟩, ⟨"B", [], none⟩, ⟨"F", [.text "A", .text "B"], none⟩] [[0], [1], []] ∧
    (call "F" [call "FAIL" [], call "B" []]).evaluate counted none 0 =
      .error (.function "FAIL" (.other "refused")) 1 ∧
    ∃ p g t, (call "F" [call "FAIL" [], call "B" []]).Visits counted.recorded none (0, []) p g t ∧
      g.Raises counted.recorded none t (.function "FAIL" (.other "refused"))
        (1, [⟨"FAIL", [], none⟩]) := by
  have hleaf : ∀ name, (call name []).Straight := fun name =>
    straight_iff.mpr ⟨rfl, List.forall_mem_nil _⟩
  have hstraight : (call "F" [call "A" [], call "B" []]).Straight :=
    straight_iff.mpr ⟨rfl, List.forall_mem_cons.mpr ⟨hleaf "A",
      List.forall_mem_cons.mpr ⟨hleaf "B", List.forall_mem_nil _⟩⟩⟩
  have hok : (call "F" [call "A" [], call "B" []]).evaluate counted none 0 =
      .ok (.text "F") 3 := rfl
  have hfail : (call "F" [call "FAIL" [], call "B" []]).evaluate counted none 0 =
      .error (.function "FAIL" (.other "refused")) 1 := rfl
  exact ⟨hok, hstraight, (calls_in_postorder counted none _ 0).2.2.1 _ _ hok hstraight, hfail,
    (calls_in_postorder counted none _ 0).2.2.2 _ _ hfail⟩

end Formula

end SheetFormula
