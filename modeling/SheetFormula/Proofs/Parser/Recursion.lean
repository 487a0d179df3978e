import SheetFormula.Proofs.Expression.RoundTrip
import SheetFormula.Proofs.Formula.Position
import SheetFormula.Proofs.Parser.Congruence

/-!
# The recursion that a ceiling leaves

The ceiling counts rules, and by them it bounds every recursion that a source or its formula is put
to (`Expression.recursion_below_ceiling`).

While a source is parsed, fewer rules run one within the other than the ceiling says. The greatest
depth at which a rule has been run stays below the ceiling (`Rule.staysBelow_enter`), and whatever
ran in the place of the rules further down would make no difference (`Rule.equalAt_runWithin`).

What is parsed is no higher than the ceiling either, since every level of a formula has taken a rule
of its own (`Derivation.height_le`). Whoever goes down a formula, be it to evaluate or to write it,
goes no deeper than its height (`Formula.length_add_height_le`).
-/

namespace SheetFormula

open SheetFormula.Parser SheetFormula.Parse SheetFormula.Sequence

/-! ### The height of a formula -/

namespace Formula

mutual

/-- The **height** of a formula: the levels of nodes in it. -/
def height : Formula → Nat
  | .literal _ | .reference _ => 1
  | .call _ arguments => 1 + tallest arguments
  | .negation operand => 1 + height operand
  | .binary _ left right => 1 + max (height left) (height right)
  | .junction _ operands => 1 + tallest operands
  | .conditional condition onTrue onFalse =>
    1 + max (height condition) (max (height onTrue) (height onFalse))

/-- The greatest height in a list of formulas. -/
def tallest : List Formula → Nat
  | [] => 0
  | f :: fs => max (height f) (tallest fs)

end

variable {f g : Formula} {fs : List Formula} {p : Position}

theorem height_le_tallest (h : f ∈ fs) : f.height ≤ tallest fs := by
  induction fs with
  | nil => cases h
  | cons g fs ih =>
    rw [tallest]
    rcases List.mem_cons.mp h with rfl | h
    · exact Nat.le_max_left _ _
    · exact Nat.le_trans (ih h) (Nat.le_max_right _ _)

/-- A formula is higher than its children, by one level above the highest. -/
theorem height_eq (f : Formula) : f.height = 1 + tallest f.children := by
  cases f <;> simp [height, children, tallest]

/-- **A position is a way down**, and no way down is longer than the height allows. -/
theorem length_add_height_le (h : f.at? p = some g) : p.length + g.height ≤ f.height := by
  induction p generalizing f with
  | nil =>
    cases h
    exact Nat.le_of_eq (Nat.zero_add _)
  | cons i p ih =>
    obtain ⟨c, hc, hg⟩ := Option.bind_eq_some_iff.mp (at?_cons.symm.trans h)
    have hchild := height_le_tallest (List.mem_of_getElem? hc)
    have hrest := ih hg
    rw [List.length_cons, height_eq f]
    omega

end Formula

mutual

/-- **Each level of a formula takes a rule**: no formula is higher than the rules nest in a
derivation of it. -/
theorem Derivation.height_le : {r : Rule} → (d : Derivation r) → d.formula.height ≤ d.levels
  | _, .program body => Nat.le_succ_of_le body.height_le
  | _, .operand left => Nat.le_succ_of_le left.height_le
  | _, .group inner => Nat.le_succ_of_le inner.height_le
  | _, .binary _ _ left right => by
    have hleft := left.height_le
    have hright := right.height_le
    simp only [Derivation.formula, Derivation.levels, Formula.height]
    omega
  | _, .negative _ | _, .number _ | _, .text _ | _, .reference _ | _, .constant _
  | _, .bareCall _ _ => Nat.le_refl 1
  | _, .conditional condition onTrue onFalse => by
    have hcondition := condition.height_le
    have htrue := onTrue.height_le
    have hfalse := onFalse.height_le
    simp only [Derivation.formula, Derivation.levels, Formula.height]
    omega
  | _, .negation operand => by
    have hoperand := operand.height_le
    simp only [Derivation.formula, Derivation.levels, Formula.height]
    omega
  | _, .junction _ operands | _, .call _ _ operands => by
    have hoperands := operands.tallest_le
    simp only [Derivation.formula, Derivation.levels, Formula.height]
    omega

theorem Operands.tallest_le : (os : Operands) → Formula.tallest os.formulas ≤ os.levels
  | .last operand => Nat.max_le.mpr ⟨operand.height_le, Nat.zero_le _⟩
  | .more operand others => by
    have hoperand := operand.height_le
    have hothers := others.tallest_le
    simp only [Operands.formulas, Operands.levels, Formula.tallest]
    omega

end

/-! ### The rules that run one within the other -/

/-- Two actions are **equal at** a depth if they have the same outcome wherever a parser stands at
that depth, and a result leaves it there. -/
structure Parse.EqualAt {α : Type} (depth : Nat) (a b : Parse α) : Prop where
  outcome : ∀ p : Parser, p.depth = depth → a p = b p
  depth : ∀ p x q, p.depth = depth → a p = .ok x q → q.depth = depth

theorem congruence_equalAt (depth : Nat) : Congruence fun _ => EqualAt depth where
  refl ha := by
    refine ⟨fun _ _ => rfl, fun p x q hp hx => ?_⟩
    exact ((ha p).done_of_ok hx).depth.trans hp
  bind {_ _ a b f g} ha hf := by
    refine ⟨fun p hp => ?_, fun p y r hp hy => ?_⟩
    · rw [← bind_congr_left (ha.outcome p hp)]
      exact bind_congr_at fun x q hx => (hf x).outcome q (ha.depth p x q hp hx)
    · obtain ⟨x, q, hx, hy⟩ := exists_of_bind_eq_ok hy
      exact (hf x).depth q y r (ha.depth p x q hp hx) hy

/-- Entering actions that are equal one level deeper. -/
theorem Parse.EqualAt.descend {α : Type} {a b : Parse α} {depth m : Nat}
    (h : depth + 1 < m → EqualAt (depth + 1) a b) :
    EqualAt depth (descend m a) (descend m b) := by
  rcases Nat.lt_or_ge (depth + 1) m with hc | hc
  · obtain ⟨houtcome, hdepth⟩ := h hc
    have hentered : ∀ p : Parser, p.depth = depth → p.entered.depth = depth + 1 :=
      fun p hp => congrArg (· + 1) hp
    refine ⟨fun p hp => ?_, fun p x q hp hx => ?_⟩
    · have heq := houtcome p.entered (hentered p hp)
      have hp' : p.depth + 1 < m := hp ▸ hc
      cases ha : a p.entered with
      | ok x q => rw [descend_of_ok hp' ha, descend_of_ok hp' (heq ▸ ha)]
      | error e q => rw [descend_of_error hp' ha, descend_of_error hp' (heq ▸ ha)]
    · have hp' : p.depth + 1 < m := hp ▸ hc
      cases ha : a p.entered with
      | ok y r =>
        cases (descend_of_ok hp' ha).symm.trans hx
        have hr := hdepth _ _ _ (hentered p hp) ha
        exact congrArg (· - 1) hr
      | error e r => cases (descend_of_error hp' ha).symm.trans hx
  · refine ⟨fun p hp => ?_, fun p x q hp hx => ?_⟩
    · rw [descend_refused (hp ▸ hc), descend_refused (hp ▸ hc)]
    · cases (descend_refused (hp ▸ hc)).symm.trans hx

namespace Rule

/-- Runs a rule with at most `frames` rules one within the other, itself included. What runs in the
place of a rule further down is `beyond`. -/
def runWithin (beyond : Rule → Parse Formula) (ceiling : Nat) :
    (frames : Nat) → Rule → Parse Formula
  | 0, r => beyond r
  | frames + 1, r => body (fun below => descend ceiling (runWithin beyond ceiling frames below)) r

theorem run_eq_runWithin (m fuel : Nat) : run m fuel = runWithin (fun _ => refuse) m fuel := by
  induction fuel with
  | zero => rfl
  | succ fuel ih =>
    funext r
    rw [run, runWithin, ih]

/-- **No rule runs as deep as the ceiling.** Where the rules that may run one within the other are
as many as the ceiling leaves, what lies beyond them does not matter, and more of them do not. -/
theorem equalAt_runWithin (beyond beyond' : Rule → Parse Formula) {m depth n n' : Nat}
    (hdepth : depth < m) (hn : m ≤ depth + n) (hn' : m ≤ depth + n') (r : Rule) :
    EqualAt depth (runWithin beyond m n r) (runWithin beyond' m n' r) := by
  induction n generalizing depth n' r with
  -- below the ceiling there is room for one rule at least, on both sides
  | zero => omega
  | succ n ih =>
    obtain ⟨n', rfl⟩ : ∃ k, n' = k + 1 := ⟨n' - 1, by omega⟩
    exact (congruence_equalAt depth).body _ _
      (fun below => .descend fun hc => ih hc (by omega) (by omega) below) r

end Rule

/-- An action **stays below** a depth if no rule has been run so deep at its end, be it a result or
an error, unless one had before. -/
def Parse.StaysBelow {α : Type} (m : Nat) (a : Parse α) : Prop :=
  ∀ p : Parser, p.deepest < m → Ensures a p (fun _ q => q.deepest < m) fun _ q => q.deepest < m

theorem congruence_staysBelow (m : Nat) : Congruence fun _ a _ => StaysBelow m a where
  refl ha p hp := by
    refine Ensures.mono (ha p) (fun _ _ hq => ?_) fun _ _ hq => ?_
    · exact hq.deepest ▸ hp
    · exact hq.1.deepest ▸ hp
  bind ha hf p hp := Ensures.bind (ha p hp) hf

theorem Parse.StaysBelow.descend {α : Type} {a : Parse α} {m : Nat} (h : StaysBelow m a) :
    StaysBelow m (descend m a) := by
  intro p hp
  rcases Nat.lt_or_ge (p.depth + 1) m with hc | hc
  · have hentered := h p.entered (Nat.max_lt.mpr ⟨hp, hc⟩)
    cases ha : a p.entered with
    | ok x q =>
      have hq : q.deepest < m := hentered.done_of_ok ha
      exact .of_eq_ok (descend_of_ok hc ha) hq
    | error e q =>
      have hq : q.deepest < m := hentered.failed_of_error ha
      exact .of_eq_error (descend_of_error hc ha) hq
  · exact .of_eq_error (descend_refused hc) hp

/-- **The deepest rule that has been run stays below the ceiling.** -/
theorem Rule.staysBelow_run (m fuel : Nat) (r : Rule) : StaysBelow m (run m fuel r) := by
  induction fuel generalizing r with
  -- a refusal raises the depth, but no rule is run there
  | zero => exact fun p hp => hp
  | succ fuel ih =>
    let enter (below : Rule) : Parse Formula := descend m (run m fuel below)
    exact (congruence_staysBelow m).body enter enter (fun below => (ih below).descend) r

namespace Formula

variable {m : Nat} {source : String} {f : Formula}

/-- What is parsed under a ceiling is lower than it by two levels at least. -/
theorem height_of_parse (h : parse m source = .ok f) : f.height + 2 ≤ m := by
  obtain ⟨d, -, rfl, hlevels⟩ := parse_eq_ok_iff.mp h
  -- the rule for programs stands above all levels of the formula
  cases d with
  | program body =>
    have hheight := body.height_le
    rw [Derivation.levels] at hlevels
    rw [Derivation.formula]
    omega

/-- Whatever would run as deep as the ceiling does not run. -/
theorem descend_runWithin (source : String) (beyond : Rule → Parse Formula) (m : Nat) :
    descend m (Rule.runWithin beyond m (m - 1) .program) (start source) =
      descend m (Rule.program.parse m) (start source) := by
  have hequal : 0 + 1 < m → EqualAt 1 (Rule.runWithin beyond m (m - 1) .program)
      (Rule.run m (Rule.fuelAt m 1) .program) := by
    intro hm
    rw [Rule.run_eq_runWithin]
    exact Rule.equalAt_runWithin _ _ hm (by omega) (by rw [Rule.fuelAt]; omega) .program
  exact (EqualAt.descend hequal).outcome (start source) rfl

end Formula

namespace Expression

/-- **The ceiling bounds recursion.** A formula that is parsed under a ceiling is lower than it by
two levels at least, and no way down the formula is longer than its height. And at no moment of a
parse, be it successful or not, so many rules run one within the other as the ceiling says: the
deepest rule that has been run stands below it, and with one rule less whatever ran in the place of
those further down would make no difference. -/
theorem recursion_below_ceiling (m : Nat) :
    (∀ text e, text.toList.head? = some '=' → parse text m = .ok e →
      e.root.height + 2 ≤ m ∧
        ∀ p g, e.root.at? p = some g → p.length + g.height ≤ e.root.height) ∧
    (1 ≤ m → ∀ source,
      (∀ beyond, descend m (Rule.runWithin beyond m (m - 1) .program) (start source) =
        descend m (Rule.program.parse m) (start source)) ∧
      (∀ f q, descend m (Rule.program.parse m) (start source) = .ok f q → q.deepest < m) ∧
      ∀ e q, descend m (Rule.program.parse m) (start source) = .error e q → q.deepest < m) := by
  refine ⟨fun text e hhead h => ⟨?_, fun p g => Formula.length_add_height_le⟩, fun hm source =>
    ⟨fun beyond => Formula.descend_runWithin source beyond m, ?_⟩⟩
  · obtain ⟨source, hsource⟩ := exists_source_of_parse hhead h
    exact Formula.height_of_parse hsource
  · have hbelow := (Rule.staysBelow_run m (Rule.fuelAt m 1) .program).descend (start source) hm
    exact ⟨fun f q h => hbelow.done_of_ok h, fun e q h => hbelow.failed_of_error h⟩

/-- `=F(A; NOT(B))` is three levels high and needs a ceiling of fourteen. -/
theorem recursion_below_ceiling_call :
    let e : Expression := ⟨.call "F" [.reference "A", .negation (.reference "B")]⟩
    parse "=F(A; NOT(B))" 14 = .ok e ∧ e.root.height + 2 ≤ 14 ∧
      e.root.at? [1, 0] = some (.reference "B") ∧ 2 + 1 ≤ e.root.height ∧
      ∀ f q, descend 14 (Rule.program.parse 14) (start "F(A; NOT(B))") = .ok f q →
        q.deepest < 14 := by
  intro e
  have hspellable : e.root.Spellable :=
    ⟨by decide +kernel, rfl, show IsIdentifier "A" by decide +kernel,
      show IsIdentifier "B" by decide +kernel, trivial⟩
  have hencode : e.encode = "=F(A; NOT(B))" := by decide +kernel
  have hparse : parse "=F(A; NOT(B))" 14 = .ok e := by
    rw [← hencode]
    exact ((parse_encode_cases hspellable 14).resolve_right fun h => absurd h.1 (by decide)).2
  obtain ⟨hheight, hruns⟩ := recursion_below_ceiling 14
  obtain ⟨hle, hways⟩ := hheight _ e (by decide +kernel) hparse
  have hway : 2 + 1 ≤ e.root.height := hways [1, 0] (.reference "B") rfl
  exact ⟨hparse, hle, rfl, hway, (hruns (by decide) _).2.1⟩

end Expression

end SheetFormula
