/-!
# Actions one after the other

What a sequence of two actions on a state does, by the outcome of the first one: its result is
handed on together with the state that it leaves, and its error ends the sequence in that state.

Two actions may have the same outcome wherever the first one does not end in one of certain errors.
This relation goes through sequences (`Sequence.AgreesButFor.bind`), so it holds of programs whose
parts it holds of. A relation between results likewise makes one between outcomes, which goes
through sequences (`Sequence.Related.bind`). And so does what two actions have in common who sees
their states in part only (`Sequence.Indistinguishable.bind`).
-/

namespace SheetFormula.Sequence

variable {ε σ α β : Type} {a : EStateM ε σ α} {f : α → EStateM ε σ β} {s t : σ}

theorem bind_eq_of_ok {x : α} (h : a s = .ok x t) : (a >>= f) s = f x t := by
  change EStateM.bind a f s = f x t
  simp only [EStateM.bind, h]

theorem bind_eq_of_error {e : ε} (h : a s = .error e t) : (a >>= f) s = .error e t := by
  change EStateM.bind a f s = .error e t
  simp only [EStateM.bind, h]

theorem bind_congr_left {b : EStateM ε σ α} (h : a s = b s) : (a >>= f) s = (b >>= f) s := by
  change EStateM.bind a f s = EStateM.bind b f s
  simp only [EStateM.bind, h]

/-- A sequence that has a result has handed on that of its first action. -/
theorem exists_of_bind_eq_ok {y : β} {u : σ} (h : (a >>= f) s = .ok y u) :
    ∃ x t, a s = .ok x t ∧ f x t = .ok y u := by
  cases hs : a s with
  | ok x t => exact ⟨x, t, rfl, (bind_eq_of_ok hs).symm.trans h⟩
  | error e t => cases (bind_eq_of_error hs).symm.trans h

/-- A sequence fails in its first action or after that has had a result. -/
theorem cases_of_bind_eq_error {e : ε} {u : σ} (h : (a >>= f) s = .error e u) :
    a s = .error e u ∨ ∃ x t, a s = .ok x t ∧ f x t = .error e u := by
  cases hs : a s with
  | ok x t => exact .inr ⟨x, t, rfl, (bind_eq_of_ok hs).symm.trans h⟩
  | error e' t =>
    cases (bind_eq_of_error hs).symm.trans h
    exact .inl rfl

/-- Sequences with one first action agree if what follows does wherever it is reached. -/
theorem bind_congr_at {g : α → EStateM ε σ β} (h : ∀ x t, a s = .ok x t → f x t = g x t) :
    (a >>= f) s = (a >>= g) s := by
  cases hs : a s with
  | ok x t => exact (bind_eq_of_ok hs).trans ((h x t hs).trans (bind_eq_of_ok hs).symm)
  | error e t => exact (bind_eq_of_error hs).trans (bind_eq_of_error hs).symm

/-! ### Agreement -/

/-- The action `b` **agrees** with `a` **but for** the errors that are excused: where `a` does not
end in one of these, `b` has the same outcome. -/
def AgreesButFor (excused : ε → Prop) (a b : EStateM ε σ α) : Prop :=
  ∀ s, (∃ e t, a s = .error e t ∧ excused e) ∨ b s = a s

namespace AgreesButFor

variable {excused : ε → Prop} {b : EStateM ε σ α} {g : α → EStateM ε σ β}

theorem refl (a : EStateM ε σ α) : AgreesButFor excused a a := fun _ => .inr rfl

theorem bind (ha : AgreesButFor excused a b) (hf : ∀ x, AgreesButFor excused (f x) (g x)) :
    AgreesButFor excused (a >>= f) (b >>= g) := by
  intro s
  rcases ha s with ⟨e, t, hs, he⟩ | hs
  · exact .inl ⟨e, t, bind_eq_of_error hs, he⟩
  · rw [bind_congr_left hs]
    cases has : a s with
    | ok x t =>
      rw [bind_eq_of_ok has, bind_eq_of_ok has]
      exact hf x t
    | error e t => exact .inr ((bind_eq_of_error has).trans (bind_eq_of_error has).symm)

theorem ite {c : Prop} [Decidable c] {a' b' : EStateM ε σ α} (ha : AgreesButFor excused a b)
    (ha' : AgreesButFor excused a' b') :
    AgreesButFor excused (if c then a else a') (if c then b else b') := by
  split
  · exact ha
  · exact ha'

end AgreesButFor

/-! ### Related outcomes -/

/-- Outcomes are **related** if they leave the same state, and are the same error or related
results. -/
inductive Related (R : α → β → Prop) : EStateM.Result ε σ α → EStateM.Result ε σ β → Prop
  | ok {x : α} {y : β} {s : σ} (results : R x y) : Related R (.ok x s) (.ok y s)
  | error {e : ε} {s : σ} : Related R (.error e s) (.error e s)

namespace Related

theorem refl {R : α → α → Prop} (hR : ∀ x, R x x) (r : EStateM.Result ε σ α) : Related R r r := by
  cases r with
  | ok x s => exact .ok (hR x)
  | error e s => exact .error

/-- Sequences have related outcomes, or what excuses them, if that is so of their first actions and
of what follows upon related results. -/
theorem bind {α' β' : Type} {b : EStateM ε σ α'} {g : α' → EStateM ε σ β'} {R : α → α' → Prop}
    {S : β → β' → Prop} {excuse : Prop} (h : excuse ∨ Related R (a s) (b s))
    (hf : ∀ x y t, a s = .ok x t → b s = .ok y t → R x y →
      excuse ∨ Related S (f x t) (g y t)) :
    excuse ∨ Related S ((a >>= f) s) ((b >>= g) s) := by
  rcases h with h | h
  · exact .inl h
  · cases ha : a s with
    | ok x t =>
      cases hb : b s with
      | ok y u =>
        rw [ha, hb] at h
        cases h with
        | ok results =>
          rw [bind_eq_of_ok ha, bind_eq_of_ok hb]
          exact hf x y t ha hb results
      | error e u =>
        rw [ha, hb] at h
        cases h
    | error e t =>
      cases hb : b s with
      | ok y u =>
        rw [ha, hb] at h
        cases h
      | error e' u =>
        rw [ha, hb] at h
        cases h
        rw [bind_eq_of_error ha, bind_eq_of_error hb]
        exact .inr .error

end Related

/-! ### Views of the state -/

/-- What is **seen** of an outcome by a view of the state. -/
def seen {ρ : Type} (view : σ → ρ) : EStateM.Result ε σ α → EStateM.Result ε ρ α
  | .ok x s => .ok x (view s)
  | .error e s => .error e (view s)

/-- Outcomes of which the same is seen are results that are the same, or errors that are, in states
that look the same. -/
theorem cases_of_seen_eq {ρ : Type} {view : σ → ρ} {r r' : EStateM.Result ε σ α}
    (h : seen view r = seen view r') :
    (∃ x s t, r = .ok x s ∧ r' = .ok x t ∧ view s = view t) ∨
      ∃ e s t, r = .error e s ∧ r' = .error e t ∧ view s = view t := by
  cases r with
  | ok x s =>
    cases r' with
    | ok y t =>
      obtain ⟨rfl, hview⟩ := EStateM.Result.ok.inj h
      exact .inl ⟨x, s, t, rfl, rfl, hview⟩
    | error e t => exact EStateM.Result.noConfusion rfl rfl rfl (heq_of_eq h)
  | error e s =>
    cases r' with
    | ok y t => exact EStateM.Result.noConfusion rfl rfl rfl (heq_of_eq h)
    | error e' t =>
      obtain ⟨rfl, hview⟩ := EStateM.Result.error.inj h
      exact .inr ⟨e, s, t, rfl, rfl, hview⟩

/-- Two actions are **indistinguishable** by a view if what is seen of their outcomes is the same
wherever what is seen of the states before them is. -/
def Indistinguishable {ρ : Type} (view : σ → ρ) (a b : EStateM ε σ α) : Prop :=
  ∀ s t, view s = view t → seen view (a s) = seen view (b t)

namespace Indistinguishable

variable {ρ : Type} {view : σ → ρ} {b : EStateM ε σ α} {g : α → EStateM ε σ β}

theorem pure (x : α) : Indistinguishable view (Pure.pure x : EStateM ε σ α) (Pure.pure x) :=
  fun _ _ h => congrArg (EStateM.Result.ok x) h

theorem throw (e : ε) :
    Indistinguishable view (MonadExcept.throw e : EStateM ε σ α) (MonadExcept.throw e) :=
  fun _ _ h => congrArg (EStateM.Result.error e) h

theorem bind (ha : Indistinguishable view a b) (hf : ∀ x, Indistinguishable view (f x) (g x)) :
    Indistinguishable view (a >>= f) (b >>= g) := by
  intro s t h
  rcases cases_of_seen_eq (ha s t h) with ⟨x, s', t', hs, ht, hview⟩ | ⟨e, s', t', hs, ht, hview⟩
  · rw [bind_eq_of_ok hs, bind_eq_of_ok ht]
    exact hf x s' t' hview
  · rw [bind_eq_of_error hs, bind_eq_of_error ht]
    exact congrArg (EStateM.Result.error e) hview

theorem ite {c : Prop} [Decidable c] {a' b' : EStateM ε σ α} (ha : Indistinguishable view a b)
    (ha' : Indistinguishable view a' b') :
    Indistinguishable view (if c then a else a') (if c then b else b') := by
  split
  · exact ha
  · exact ha'

end Indistinguishable

end SheetFormula.Sequence
