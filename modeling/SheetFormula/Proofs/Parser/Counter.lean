import SheetFormula.Proofs.Parser.Congruence

/-!
# The counter of nested rules

When a rule is left, the counter is back at the value at which the rule was entered, whatever the
outcome. The one exception is the error of the ceiling: the refusal raises the counter for good, and
all rules that are left on its way out lower it by just as much as they have raised it. So the
counter is one higher then, no matter how deep down the refusal was (`Rule.counter_restored`).

Between its entry and its exit a rule never lowers the counter below the value at entry. This is
said by runs in which anything at all may happen to a parser where it would be
(`Parser.descendAbove`, `Rule.runAbove`): they are the same as the runs without that provision.
-/

namespace SheetFormula

open SheetFormula.Parser SheetFormula.Parse SheetFormula.Sequence

/-! ### The counter at the end -/

/-- The number of levels by which an error leaves the counter raised. -/
def SyntaxError.residue (e : SyntaxError) : Nat := if e.fault = .maximumDepth then 1 else 0

/-- An action **restores** the counter, but for the residue of its error. -/
def Parse.Restores {α : Type} (a : Parse α) : Prop :=
  ∀ p, Ensures a p (fun _ q => q.depth = p.depth) fun e q => q.depth = p.depth + e.residue

section Restores

variable {α : Type} {a b : Parse α} {m floor : Nat}

theorem Parse.Flat.restores (h : Flat a) : Restores a := by
  refine fun p => Ensures.mono (h p) (fun _ _ hq => hq.depth) fun e q hq => ?_
  rw [SyntaxError.residue, if_neg hq.2]
  exact hq.1.depth

/-- That the counter is restored goes through the rules. -/
theorem congruence_restores : Congruence fun _ a _ => Restores a where
  refl := Flat.restores
  bind ha hf p := Ensures.bind (ha p) fun x q hq => hq ▸ hf x q

theorem restores_refuse : Restores (refuse : Parse α) := fun _ => rfl

/-- Entering a rule raises the counter once, leaving it lowers it once. -/
theorem Parse.Restores.descend (h : Restores a) (m : Nat) : Restores (descend m a) := by
  intro p
  rcases Nat.lt_or_ge (p.depth + 1) m with hc | hc
  · have hleft : ∀ (k : Nat) (q : Parser), q.depth = p.entered.depth + k →
        q.left.depth = p.depth + k := by
      intro k q hq
      rw [Parser.left, hq, entered]
      dsimp only
      omega
    cases hr : a p.entered with
    | ok x q => exact .of_eq_ok (descend_of_ok hc hr) (hleft 0 q ((h _).done_of_ok hr))
    | error e q =>
      exact .of_eq_error (descend_of_error hc hr) (hleft e.residue q ((h _).failed_of_error hr))
  · exact .of_eq_error (descend_refused hc) rfl

/-- Every run of a rule restores the counter. -/
theorem Rule.restores_run (m fuel : Nat) (r : Rule) : Restores (run m fuel r) := by
  induction fuel generalizing r with
  | zero => exact restores_refuse
  | succ fuel ih =>
    let enter (below : Rule) : Parse Formula := descend m (run m fuel below)
    exact congruence_restores.body enter enter (fun below => (ih below).descend m) r

/-! ### The counter meanwhile -/

/-- The state in which a rule is left, if this does not lower the counter below `floor`; what a
parser comes to where it does is `beyond`. -/
def Parser.leftAbove (floor : Nat) (beyond : Parser → Parser) (p : Parser) : Parser :=
  if p.depth ≤ floor then beyond p else p.left

/-- Runs a rule one level deeper as `Parser.descend` does, with a provision for the case that
leaving it lowers the counter below `floor`. -/
def Parser.descendAbove (floor : Nat) (beyond : Parser → Parser) (ceiling : Nat)
    (rule : Parse α) : Parse α := fun p =>
  if ceiling ≤ p.depth + 1 then refuse p
  else
    match rule p.entered with
    | .ok result q => .ok result (q.leftAbove floor beyond)
    | .error e q => .error e (q.leftAbove floor beyond)

/-- Without a provision of its own that is the way in which rules are entered. -/
theorem descendAbove_left (floor m : Nat) (a : Parse α) :
    descendAbove floor left m a = descend m a := by
  funext p
  have hleft : ∀ q : Parser, q.leftAbove floor left = q.left := fun q => ite_self _
  unfold descendAbove descend
  simp only [hleft]
  rfl

/-- Two actions **agree above** a floor if they have the same outcome wherever a parser counts so
many levels, and restore the counter. -/
structure Parse.AgreesAbove (floor : Nat) (a b : Parse α) : Prop where
  eq : ∀ p : Parser, floor ≤ p.depth → b p = a p
  restores : Restores a

theorem congruence_agreesAbove (floor : Nat) : Congruence fun _ => AgreesAbove floor where
  refl ha := ⟨fun _ _ => rfl, ha.restores⟩
  bind {_ _ a b f g} ha hf := by
    refine ⟨fun p hp => ?_, congruence_restores.bind (b := b) (g := g) ha.restores fun x =>
      (hf x).restores⟩
    rw [bind_congr_left (ha.eq p hp)]
    refine bind_congr_at fun x q hx => (hf x).eq q ?_
    have hq : q.depth = p.depth := (ha.restores p).done_of_ok hx
    rwa [hq]

/-- Leaving a rule lowers the counter to where it was, and not below. -/
theorem Parse.AgreesAbove.descend (h : AgreesAbove floor a b) (beyond : Parser → Parser) (m : Nat) :
    AgreesAbove floor (descend m a) (descendAbove floor beyond m b) := by
  refine ⟨fun p hp => ?_, h.restores.descend m⟩
  have hfloor : floor < p.entered.depth := Nat.lt_succ_of_le hp
  have hleft : ∀ (k : Nat) (q : Parser), q.depth = p.entered.depth + k →
      q.leftAbove floor beyond = q.left := by
    intro k q hq
    rw [leftAbove, if_neg (by omega)]
  unfold descendAbove
  rcases Nat.lt_or_ge (p.depth + 1) m with hc | hc
  · rw [if_neg (Nat.not_le_of_lt hc), h.eq p.entered (Nat.le_of_lt hfloor)]
    cases hr : a p.entered with
    | ok x q =>
      rw [descend_of_ok hc hr]
      exact congrArg (EStateM.Result.ok x) (hleft 0 q ((h.restores _).done_of_ok hr))
    | error e q =>
      rw [descend_of_error hc hr]
      exact congrArg (EStateM.Result.error e)
        (hleft e.residue q ((h.restores _).failed_of_error hr))
  · rw [if_pos hc, descend_refused hc]
    rfl

end Restores

namespace Rule

/-- Runs a rule as `Rule.run` does, with a provision for the case that the counter is lowered below
`floor`. -/
def runAbove (floor : Nat) (beyond : Parser → Parser) (ceiling : Nat) :
    (fuel : Nat) → Rule → Parse Formula
  | 0, _ => refuse
  | fuel + 1, r =>
    body (fun below =>
      descendAbove floor beyond ceiling (runAbove floor beyond ceiling fuel below)) r

theorem agreesAbove_runAbove (floor : Nat) (beyond : Parser → Parser) (m fuel : Nat) (r : Rule) :
    AgreesAbove floor (run m fuel r) (runAbove floor beyond m fuel r) := by
  induction fuel generalizing r with
  | zero => exact ⟨fun _ _ => rfl, restores_refuse⟩
  | succ fuel ih =>
    exact (congruence_agreesAbove floor).body _ _ (fun below => (ih below).descend beyond m) r

/-! ### All rules -/

/-- Reads by a rule as `Rule.parse` does, with a provision for a lowered counter. -/
def parseAbove (floor : Nat) (beyond : Parser → Parser) (ceiling : Nat) (r : Rule) :
    Parse Formula := fun p =>
  runAbove floor beyond ceiling (fuelAt ceiling p.depth) r p

/-- Reads arguments as `Rule.parseOperands` does, with a provision for a lowered counter. -/
def parseOperandsAbove (floor : Nat) (beyond : Parser → Parser) (ceiling : Nat) :
    Parse (List Formula) := fun p =>
  Parser.operands (descendAbove floor beyond ceiling
    (runAbove floor beyond ceiling (fuelAt ceiling p.depth) expression)) p

theorem agreesAbove_parse (floor : Nat) (beyond : Parser → Parser) (m : Nat) (r : Rule) :
    AgreesAbove floor (r.parse m) (r.parseAbove floor beyond m) where
  eq p hp := (agreesAbove_runAbove floor beyond m _ r).eq p hp
  restores p := .congr rfl (restores_run m (fuelAt m p.depth) r p)

theorem parseOperands_eq (m : Nat) (p : Parser) :
    parseOperands m p =
      Parser.operands (descend m (run m (fuelAt m p.depth) expression)) p := rfl

theorem parseOperandsAbove_eq (floor : Nat) (beyond : Parser → Parser) (m : Nat) (p : Parser) :
    parseOperandsAbove floor beyond m p =
      Parser.operands (descendAbove floor beyond m
        (runAbove floor beyond m (fuelAt m p.depth) expression)) p := rfl

theorem agreesAbove_parseOperands (floor : Nat) (beyond : Parser → Parser) (m : Nat) :
    AgreesAbove floor (parseOperands m) (parseOperandsAbove floor beyond m) := by
  have hoperands (fuel : Nat) : AgreesAbove floor
      (Parser.operands (descend m (run m fuel expression)))
      (Parser.operands (descendAbove floor beyond m (runAbove floor beyond m fuel expression))) :=
    (congruence_agreesAbove floor).operands
      ((agreesAbove_runAbove floor beyond m fuel expression).descend beyond m)
  refine ⟨fun p hp => ?_, fun p => ?_⟩
  · rw [parseOperands_eq, parseOperandsAbove_eq]
    exact (hoperands (fuelAt m p.depth)).eq p hp
  · have hrestores := (hoperands (fuelAt m p.depth)).restores p
    exact .congr (parseOperands_eq m p) hrestores

end Rule

/-- What is said of the **counter** of a parser that takes an action: at the end it is what it was
at the beginning, one higher if the error is that of the ceiling, and meanwhile it is never lowered
below that. The action is given with the variants that provide for this case. -/
structure Parse.Counts {α : Type} (p : Parser) (a : Parse α)
    (above : (floor : Nat) → (beyond : Parser → Parser) → Parse α) : Prop where
  /-- A result finds the counter where it was. -/
  of_ok : ∀ x q, a p = .ok x q → q.depth = p.depth
  /-- So does an error that is not the one of the ceiling. -/
  of_error : ∀ e q, a p = .error e q → e.fault ≠ .maximumDepth → q.depth = p.depth
  /-- The error of the ceiling leaves it one higher. -/
  of_refusal : ∀ e q, a p = .error e q → e.fault = .maximumDepth → q.depth = p.depth + 1
  /-- Whatever would happen below makes no difference. -/
  never_below : ∀ beyond, above p.depth beyond p = a p

theorem Parse.Counts.of_agreesAbove {α : Type} {p : Parser} {a : Parse α}
    {above : (floor : Nat) → (beyond : Parser → Parser) → Parse α}
    (h : ∀ beyond, AgreesAbove p.depth a (above p.depth beyond)) : Counts p a above where
  of_ok x q hx := ((h id).restores p).done_of_ok hx
  of_error e q he hfault := by
    have hq := ((h id).restores p).failed_of_error he
    rwa [SyntaxError.residue, if_neg hfault] at hq
  of_refusal e q he hfault := by
    have hq := ((h id).restores p).failed_of_error he
    rwa [SyntaxError.residue, if_pos hfault] at hq
  never_below beyond := (h beyond).eq p (Nat.le_refl _)

namespace Rule

/-- **Every rule restores the counter of nested rules**, in every state of a parser and under every
ceiling, be it run directly or one level deeper. -/
theorem counter_restored (ceiling : Nat) (p : Parser) :
    (∀ r : Rule,
      Counts p (r.parse ceiling) (fun floor beyond => r.parseAbove floor beyond ceiling) ∧
      Counts p (descend ceiling (r.parse ceiling)) fun floor beyond =>
        descendAbove floor beyond ceiling (r.parseAbove floor beyond ceiling)) ∧
    Counts p (parseOperands ceiling) (fun floor beyond =>
      parseOperandsAbove floor beyond ceiling) ∧
    Counts p (descend ceiling (parseOperands ceiling)) fun floor beyond =>
      descendAbove floor beyond ceiling (parseOperandsAbove floor beyond ceiling) := by
  refine ⟨fun r => ⟨.of_agreesAbove fun beyond => ?_, .of_agreesAbove fun beyond => ?_⟩,
    .of_agreesAbove fun beyond => ?_, .of_agreesAbove fun beyond => ?_⟩
  · exact agreesAbove_parse _ beyond ceiling r
  · exact (agreesAbove_parse _ beyond ceiling r).descend beyond ceiling
  · exact agreesAbove_parseOperands _ beyond ceiling
  · exact (agreesAbove_parseOperands _ beyond ceiling).descend beyond ceiling

/-- In `(A)` the inner term is refused while four rules run, and the counter is one higher than
before. -/
theorem counter_restored_refused :
    ∃ e q, descend 5 (Rule.term.parse 5) (start "(A)") = .error e q ∧
      e.fault = .maximumDepth ∧ q.depth = 1 := by
  have hcounts := ((counter_restored 5 (start "(A)")).1 .term).2
  obtain ⟨e, q, hrun, hfault⟩ : ∃ e q,
      descend 5 (Rule.term.parse 5) (start "(A)") = .error e q ∧ e.fault = .maximumDepth :=
    ⟨_, _, rfl, rfl⟩
  exact ⟨e, q, hrun, hfault, hcounts.of_refusal e q hrun hfault⟩

end Rule

end SheetFormula
