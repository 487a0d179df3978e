import SheetFormula.Proofs.Grammar.Unambiguous
import SheetFormula.Proofs.Parser.Moves

/-!
# The parser follows every derivation

A parser that has the tokens of a derivation ahead of it, and behind them a token at which the
phrase ends, reads just these tokens and yields the formula of the derivation
(`Derivation.follows_enter`). The one thing that can come between is the ceiling, and it does so
exactly when the derivation nests as deep as the ceiling: success and refusal are told apart by
`Derivation.levels`.
-/

namespace SheetFormula

namespace Parser

/-- A parser **stands** before the given tokens, with nothing else ahead, at the given depth. -/
structure Stands (p : Parser) (ts : List Token) (depth : Nat) : Prop where
  ahead : p.upcoming.map Prod.fst = ts.map Reading.token
  depth_eq : p.depth = depth

variable {p : Parser} {t : Token} {ts : List Token} {depth : Nat}
  {failed : SyntaxError → Parser → Prop}

theorem Stands.upcoming_eq_cons (h : p.Stands (t :: ts) depth) :
    ∃ s rest, p.upcoming = (.token t, s) :: rest ∧ rest.map Prod.fst = ts.map Reading.token := by
  have ha := h.ahead
  rcases hup : p.upcoming with _ | ⟨⟨r, s⟩, rest⟩
  · simp [hup] at ha
  · rw [hup, List.map_cons, List.map_cons, List.cons.injEq] at ha
    obtain ⟨rfl, hrest⟩ := ha
    exact ⟨s, rest, rfl, hrest⟩

theorem MovedTo.stands {q : Parser} {rest : List (Reading × Nat)} (hq : p.MovedTo rest q)
    (hp : p.depth = depth) (hrest : rest.map Prod.fst = ts.map Reading.token) :
    q.Stands ts depth :=
  ⟨by rw [hq.upcoming, hrest], hq.depth.trans hp⟩

theorem Stands.ensures_next (h : p.Stands (t :: ts) depth) :
    Parse.Ensures next p (fun t' q => t'.token = t ∧ q.Stands ts depth) failed := by
  obtain ⟨s, rest, hup, hrest⟩ := h.upcoming_eq_cons
  obtain ⟨q, hnext, hq⟩ := next_token hup
  exact .of_eq_ok hnext ⟨rfl, hq.stands h.depth_eq hrest⟩

theorem Stands.ensures_peek (h : p.Stands ts depth) :
    Parse.Ensures peek p (fun next? q => next? = ts.head? ∧ q.Stands ts depth) failed := by
  cases ts with
  | nil =>
    obtain ⟨q, hpeek, hq, -⟩ := peek_end (List.map_eq_nil_iff.mp h.ahead)
    exact .of_eq_ok hpeek ⟨rfl, hq.stands h.depth_eq rfl⟩
  | cons t ts =>
    obtain ⟨s, rest, hup, -⟩ := h.upcoming_eq_cons
    obtain ⟨q, hpeek, hq, -⟩ := peek_token hup
    exact .of_eq_ok hpeek ⟨rfl, hq.stands h.depth_eq h.ahead⟩

theorem Stands.ensures_expect {s : Symbol} (h : p.Stands (.symbol s :: ts) depth) :
    Parse.Ensures (expectSymbol s) p (fun _ q => q.Stands ts depth) failed := by
  obtain ⟨_, rest, hup, hrest⟩ := h.upcoming_eq_cons
  obtain ⟨q, hexpect, hq⟩ := expect_symbol hup
  exact .of_eq_ok hexpect (hq.stands h.depth_eq hrest)

theorem Stands.entered (h : p.Stands ts depth) : p.entered.Stands ts (depth + 1) :=
  ⟨h.ahead, congrArg (· + 1) h.depth_eq⟩

theorem Stands.left (h : p.Stands ts (depth + 1)) : p.left.Stands ts depth :=
  ⟨h.ahead, congrArg (· - 1) h.depth_eq⟩

end Parser

open SheetFormula.Parser SheetFormula.Parse SheetFormula.Sequence

/-! ### Runs that only the ceiling can stop -/

/-- A run **follows** to a result: it yields `x` and stands before `rest`, or it is refused. It is
refused exactly when `deepest`, the greatest depth that it needs, reaches the ceiling. -/
def Parse.Follows {α : Type} (a : Parse α) (p : Parser) (ceiling deepest : Nat) (x : α)
    (rest : List Token) (depth : Nat) : Prop :=
  Ensures a p (fun y q => y = x ∧ q.Stands rest depth ∧ deepest < ceiling)
    fun e _ => e.fault = .maximumDepth ∧ ceiling ≤ deepest

section Follows

variable {α β : Type} {a : Parse α} {f : α → Parse β} {p : Parser} {x : α} {y : β}
  {ts rest : List Token} {ceiling deepest deepest' depth : Nat}

theorem Parse.Follows.bind (ha : Follows a p ceiling deepest x ts depth)
    (hle : deepest ≤ deepest')
    (hf : ∀ q, q.Stands ts depth → deepest < ceiling →
      Follows (f x) q ceiling deepest' y rest depth) :
    Follows (a >>= f) p ceiling deepest' y rest depth := by
  refine Ensures.bind (ha.mono (fun _ _ h => h) ?_) ?_
  · rintro e _ ⟨he, hc⟩
    exact ⟨he, Nat.le_trans hc hle⟩
  · rintro _ q ⟨rfl, hq, hc⟩
    exact hf q hq hc

/-- The bound of a run may be replaced by one on the same side of the ceiling. -/
theorem Parse.Follows.raise (ha : Follows a p ceiling deepest x rest depth)
    (hle : deepest ≤ deepest') (hlt : deepest < ceiling → deepest' < ceiling) :
    Follows a p ceiling deepest' x rest depth := by
  refine Ensures.mono ha ?_ ?_
  · rintro y q ⟨hy, hq, hc⟩
    exact ⟨hy, hq, hlt hc⟩
  · rintro e _ ⟨he, hc⟩
    exact ⟨he, Nat.le_trans hc hle⟩

theorem Parse.Follows.of_ok {q : Parser} {z : α} (ha : Follows a p ceiling deepest x rest depth)
    (h : a p = .ok z q) : z = x ∧ q.Stands rest depth ∧ deepest < ceiling :=
  Ensures.done_of_ok ha h

theorem Parse.Follows.of_error {q : Parser} {e : SyntaxError}
    (ha : Follows a p ceiling deepest x rest depth) (h : a p = .error e q) :
    e.fault = .maximumDepth ∧ ceiling ≤ deepest :=
  Ensures.failed_of_error ha h

theorem Parse.Follows.pure (hp : p.Stands rest depth) (hc : deepest < ceiling) :
    Follows (Pure.pure x) p ceiling deepest x rest depth :=
  Ensures.pure ⟨rfl, hp, hc⟩

end Follows

variable {ceiling fuel depth : Nat} {p : Parser} {rest : List Token}

/-- A rule that is entered follows to a result if its body does, run one level deeper. -/
theorem Rule.follows_enter {r : Rule} {f : Formula} {ts : List Token} {levels : Nat}
    (hlevels : 0 < levels) (hp : p.Stands ts depth) (hfuel : ceiling ≤ depth + fuel)
    (hbody : ∀ fuel' p', p'.Stands ts (depth + 1) → ceiling ≤ depth + 1 + fuel' →
      depth + 1 < ceiling →
      Follows (r.body (Rule.enter ceiling fuel')) p' ceiling (depth + levels) f rest
        (depth + 1)) :
    Follows (r.enter ceiling fuel) p ceiling (depth + levels) f rest depth := by
  have hd := hp.depth_eq
  refine ensures_descend (fun hc => ⟨rfl, by omega⟩) fun hc => ?_
  cases fuel with
  -- below the ceiling there is fuel
  | zero => omega
  | succ fuel' =>
    refine (hbody fuel' _ hp.entered (by omega) (by omega)).mono ?_ fun _ _ h => h
    rintro f' q ⟨hf, hq, hl⟩
    exact ⟨hf, hq.left, hl⟩

/-! ### Chains of operators -/

/-- An operand is read alone when the phrase ends behind it. -/
theorem follows_chain_operand {l : Level} {leftSide rightSide : Parse Formula} {f : Formula}
    {deepest : Nat} (hleft : Follows leftSide p ceiling deepest f rest depth)
    (hend : (Rule.level l).EndsBefore rest.head?) :
    Follows (chain l leftSide rightSide) p ceiling deepest f rest depth := by
  refine hleft.bind (Nat.le_refl _) fun q hq hc => ?_
  rw [peekOperator_bind]
  refine hq.ensures_peek.bind ?_
  rintro _ q ⟨rfl, hq⟩
  have hnone : (rest.head?.bind fun t =>
      (Operator.ofToken? t).filter (·.level = l)) = none := by
    cases hrest : rest.head? with
    | none => rfl
    | some t =>
      rw [hrest] at hend
      rw [Option.bind_some, Option.filter_eq_none_iff]
      intro op hop hl
      have hlt : op.level.rank + 1 < l.rank + 1 := hend.2 op hop
      rw [of_decide_eq_true hl] at hlt
      exact Nat.lt_irrefl _ hlt
  rw [hnone]
  exact Follows.pure hq hc

/-- An operator of the level is read with both its sides. -/
theorem follows_chain_binary {l : Level} {leftSide rightSide : Parse Formula} {op : Operator}
    {f g : Formula} {ts : List Token} {deepest deepest' : Nat} (hl : op.level = l)
    (hleft : Follows leftSide p ceiling deepest f (.symbol op.symbol :: ts) depth)
    (hle : deepest ≤ deepest')
    (hright : ∀ q, q.Stands ts depth → deepest < ceiling →
      Follows rightSide q ceiling deepest' g rest depth) :
    Follows (chain l leftSide rightSide) p ceiling deepest' (.binary op f g) rest depth := by
  refine hleft.bind hle fun q hq hc => ?_
  rw [peekOperator_bind]
  refine hq.ensures_peek.bind ?_
  rintro _ q ⟨rfl, hq⟩
  have hsome : ((Token.symbol op.symbol :: ts).head?.bind fun t =>
      (Operator.ofToken? t).filter (·.level = l)) = some op := by
    rw [List.head?_cons, Option.bind_some, Operator.ofToken?, Operator.ofSymbol?_symbol,
      Option.filter_some, if_pos (decide_eq_true hl)]
  rw [hsome]
  refine hq.ensures_next.bind ?_
  rintro _ q ⟨-, hq⟩
  exact (hright q hq hc).bind (Nat.le_refl _) fun q hq hc => Follows.pure hq hc

/-! ### Lists of operands -/

section Operands

variable {operand : Parse Formula} {ts : List Token}

/-- No more operands are read when no semicolon comes next. -/
theorem follows_moreOperands_done {deepest : Nat} (n : Nat) (hp : p.Stands ts depth)
    (hts : ts.head? ≠ some (.symbol .semicolon)) (hc : deepest < ceiling) :
    Follows (moreOperands operand n) p ceiling deepest [] ts depth := by
  cases n with
  | zero => exact Follows.pure hp hc
  | succ n =>
    rw [moreOperands, peekIs_bind]
    refine hp.ensures_peek.bind ?_
    rintro _ q ⟨rfl, hq⟩
    rw [if_neg (by simpa using hts)]
    exact Follows.pure hq hc

/-- An operand is read after a semicolon, and the ones that follow it. -/
theorem follows_moreOperands_step {deepest deepest' n : Nat} {f : Formula} {fs : List Formula}
    {ts' : List Token} (hp : p.Stands (.symbol .semicolon :: ts) depth)
    (hf : ∀ q, q.Stands ts depth → Follows operand q ceiling deepest f ts' depth)
    (hle : deepest ≤ deepest')
    (hfs : ∀ q, q.Stands ts' depth → deepest < ceiling →
      Follows (moreOperands operand n) q ceiling deepest' fs rest depth) :
    Follows (moreOperands operand (n + 1)) p ceiling deepest' (f :: fs) rest depth := by
  rw [moreOperands, peekIs_bind]
  refine hp.ensures_peek.bind ?_
  rintro _ q ⟨rfl, hq⟩
  rw [if_pos (by simp)]
  refine hq.ensures_next.bind ?_
  rintro _ q ⟨-, hq⟩
  refine (hf q hq).bind hle fun q hq hc => ?_
  refine (hfs q hq hc).bind (Nat.le_refl _) fun q hq hc => ?_
  exact Follows.pure hq hc

/-- A call has no arguments where the parenthesis is closed at once. -/
theorem follows_arguments_nil {deepest : Nat}
    (hp : p.Stands (.symbol .rightParen :: rest) depth) (hc : deepest < ceiling) :
    Follows (arguments operand) p ceiling deepest [] rest depth := by
  rw [arguments, peekIs_bind]
  refine hp.ensures_peek.bind ?_
  rintro _ q ⟨rfl, hq⟩
  rw [if_pos (by simp)]
  exact hq.ensures_next.bind fun _ q hq => Follows.pure hq.2 hc

/-- The arguments of a call are its operands where the parenthesis is not closed at once. -/
theorem follows_arguments {deepest : Nat} {fs : List Formula} (hp : p.Stands ts depth)
    (hts : ts.head? ≠ some (.symbol .rightParen))
    (h : ∀ q, q.Stands ts depth →
      Follows (Parser.operands operand) q ceiling deepest fs rest depth) :
    Follows (arguments operand) p ceiling deepest fs rest depth := by
  rw [arguments, peekIs_bind]
  refine hp.ensures_peek.bind ?_
  rintro _ q ⟨rfl, hq⟩
  rw [if_neg (by simpa using hts)]
  exact h q hq

end Operands

/-- A parser has at least as many items pending as tokens ahead, but for the one looked at. -/
theorem Parser.Stands.length_le {ts : List Token} (h : p.Stands ts depth) :
    ts.length ≤ p.pending.length + 1 := by
  have hlen := congrArg List.length h.ahead
  have hahead : p.ahead.toList.length ≤ 1 := by cases p.ahead <;> simp
  simp only [upcoming, List.length_map, List.length_append] at hlen
  omega

/-! ### All derivations -/

/-- A program ends where nothing is left. -/
theorem follows_program {expression : Parse Formula} {f : Formula} {deepest : Nat}
    (h : Follows expression p ceiling deepest f [] depth) :
    Follows (Parser.program expression) p ceiling deepest f [] depth := by
  refine h.bind (Nat.le_refl _) fun q hq hc => ?_
  obtain ⟨q', hpeek, hq', ha, -⟩ := peek_end (List.map_eq_nil_iff.mp hq.ahead)
  refine Ensures.bind_of_ok hpeek (Ensures.get_bind ?_)
  rw [ha]
  exact Follows.pure (hq'.stands hq.depth_eq rfl) hc

/-- A name before an opening parenthesis is read with what the parenthesis opens. -/
theorem follows_term_name {operand : Parse Formula} {name : String} {f : Formula}
    {ts : List Token} {deepest : Nat}
    (hp : p.Stands (.name name :: .symbol .leftParen :: ts) depth)
    (h : ∀ q, q.Stands ts depth → Follows (match Form.ofName? name with
        | some reserved => form operand reserved
        | none => do
          let fs ← arguments operand
          pure (.call name fs)) q ceiling deepest f rest depth) :
    Follows (Parser.term operand) p ceiling deepest f rest depth := by
  refine hp.ensures_next.bind ?_
  rintro ⟨_, _⟩ q ⟨rfl, hq⟩
  change Follows (peekIs _ >>= _) _ _ _ _ _ _
  rw [peekIs_bind]
  refine hq.ensures_peek.bind ?_
  rintro _ q ⟨rfl, hq⟩
  rw [if_pos (by simp)]
  refine hq.ensures_next.bind ?_
  rintro _ q ⟨-, hq⟩
  exact h q hq

mutual

/-- **A derivation is followed**: a parser that stands before its tokens, and behind them before a
token at which the phrase ends, reads them as its formula. It is refused exactly when the
derivation nests as deep as the ceiling. -/
theorem Derivation.follows_enter : {r : Rule} → (d : Derivation r) → {fuel depth : Nat} →
    {p : Parser} → {rest : List Token} → p.Stands (d.tokens ++ rest) depth →
    r.EndsBefore rest.head? → ceiling ≤ depth + fuel →
    Follows (r.enter ceiling fuel) p ceiling (depth + d.levels) d.formula rest depth
  | _, .program body, fuel, depth, p, rest, hp, hend, hfuel => by
    refine Rule.follows_enter (Nat.succ_pos _) hp hfuel fun fuel p hp hfuel hc => ?_
    have hrest : rest = [] := by cases rest <;> first | rfl | exact hend.elim
    subst hrest
    -- the rule inside nests one level less and starts one level deeper
    refine follows_program ((body.follows_enter hp trivial hfuel).raise ?_ ?_) <;>
      simp only [Derivation.levels] <;> omega
  | _, .operand left, fuel, depth, p, rest, hp, hend, hfuel => by
    refine Rule.follows_enter (Nat.succ_pos _) hp hfuel fun fuel p hp hfuel hc => ?_
    refine follows_chain_operand ((left.follows_enter hp hend.tighter hfuel).raise ?_ ?_) hend <;>
      simp only [Derivation.levels] <;> omega
  | _, .binary op hl left right, fuel, depth, p, rest, hp, hend, hfuel => by
    refine Rule.follows_enter (Nat.succ_pos _) hp hfuel fun fuel p hp hfuel hc => ?_
    rw [Derivation.tokens, List.append_assoc, List.cons_append] at hp
    simp only [Derivation.levels]
    refine follows_chain_binary (Operator.level?_symbol_iff.mp hl)
      (left.follows_enter hp (Rule.endsBefore_operator hl) hfuel) (by omega) fun q hq hc' => ?_
    refine (right.follows_enter hq hend hfuel).raise ?_ ?_ <;> omega
  | _, .group inner, fuel, depth, p, rest, hp, hend, hfuel => by
    refine Rule.follows_enter (Nat.succ_pos _) hp hfuel fun fuel p hp hfuel hc => ?_
    rw [Derivation.tokens, List.cons_append, List.append_assoc, List.singleton_append] at hp
    simp only [Derivation.levels]
    refine hp.ensures_next.bind ?_
    rintro ⟨_, _⟩ q ⟨rfl, hq⟩
    refine (inner.follows_enter hq (Rule.endsBefore_rightParen _) hfuel).bind (by omega)
      fun q hq hc => ?_
    exact hq.ensures_expect.bind fun _ q hq => Follows.pure hq (by omega)
  | _, .negative x, fuel, depth, p, rest, hp, hend, hfuel => by
    refine Rule.follows_enter (Nat.succ_pos _) hp hfuel fun fuel p hp hfuel hc => ?_
    refine hp.ensures_next.bind ?_
    rintro ⟨_, _⟩ q ⟨rfl, hq⟩
    refine hq.ensures_peek.bind ?_
    rintro _ q ⟨rfl, hq⟩
    exact hq.ensures_next.bind fun _ q hq => Follows.pure hq.2 hc
  | _, .number x, fuel, depth, p, rest, hp, hend, hfuel => by
    refine Rule.follows_enter (Nat.succ_pos _) hp hfuel fun fuel p hp hfuel hc => ?_
    refine hp.ensures_next.bind ?_
    rintro ⟨_, _⟩ q ⟨rfl, hq⟩
    exact Follows.pure hq hc
  | _, .text s, fuel, depth, p, rest, hp, hend, hfuel => by
    refine Rule.follows_enter (Nat.succ_pos _) hp hfuel fun fuel p hp hfuel hc => ?_
    refine hp.ensures_next.bind ?_
    rintro ⟨_, _⟩ q ⟨rfl, hq⟩
    exact Follows.pure hq hc
  | _, .reference name, fuel, depth, p, rest, hp, hend, hfuel => by
    refine Rule.follows_enter (Nat.succ_pos _) hp hfuel fun fuel p hp hfuel hc => ?_
    refine hp.ensures_next.bind ?_
    rintro ⟨_, _⟩ q ⟨rfl, hq⟩
    change Follows (peekIs _ >>= _) _ _ _ _ _ _
    rw [peekIs_bind]
    refine hq.ensures_peek.bind ?_
    rintro _ q ⟨rfl, hq⟩
    have hparen : rest.head? ≠ some (.symbol .leftParen) := by
      intro h
      rw [h] at hend
      exact hend.1 rfl
    rw [if_neg (by simpa using hparen)]
    exact Follows.pure hq hc
  | _, .conditional condition onTrue onFalse, fuel, depth, p, rest, hp, hend, hfuel => by
    refine Rule.follows_enter (Nat.succ_pos _) hp hfuel fun fuel p hp hfuel hc => ?_
    simp only [Derivation.tokens, List.cons_append, List.append_assoc, List.nil_append] at hp
    simp only [Derivation.levels]
    refine follows_term_name hp fun q hq => ?_
    rw [Form.ofName?_name]
    refine (condition.follows_enter hq (Rule.endsBefore_semicolon _) hfuel).bind (by omega)
      fun q hq hcond => ?_
    refine hq.ensures_expect.bind fun _ q hq => ?_
    refine Follows.bind (onTrue.follows_enter hq (Rule.endsBefore_semicolon _) hfuel) (by omega)
      fun q hq htrue => ?_
    refine hq.ensures_expect.bind fun _ q hq => ?_
    refine Follows.bind (onFalse.follows_enter hq (Rule.endsBefore_rightParen _) hfuel) (by omega)
      fun q hq hfalse => ?_
    exact hq.ensures_expect.bind fun _ q hq => Follows.pure hq (by omega)
  | _, .constant b, fuel, depth, p, rest, hp, hend, hfuel => by
    refine Rule.follows_enter (Nat.succ_pos _) hp hfuel fun fuel p hp hfuel hc => ?_
    refine follows_term_name hp fun q hq => ?_
    rw [Form.ofName?_name]
    exact hq.ensures_expect.bind fun _ q hq => Follows.pure hq hc
  | _, .negation operand, fuel, depth, p, rest, hp, hend, hfuel => by
    refine Rule.follows_enter (Nat.succ_pos _) hp hfuel fun fuel p hp hfuel hc => ?_
    simp only [Derivation.tokens, List.cons_append, List.append_assoc, List.nil_append] at hp
    simp only [Derivation.levels]
    refine follows_term_name hp fun q hq => ?_
    rw [Form.ofName?_name]
    refine (operand.follows_enter hq (Rule.endsBefore_rightParen _) hfuel).bind (by omega)
      fun q hq hc => ?_
    exact hq.ensures_expect.bind fun _ q hq => Follows.pure hq (by omega)
  | _, .junction kind operands, fuel, depth, p, rest, hp, hend, hfuel => by
    refine Rule.follows_enter (Nat.succ_pos _) hp hfuel fun fuel p hp hfuel hc => ?_
    simp only [Derivation.levels]
    refine follows_term_name hp fun q hq => ?_
    rw [Form.ofName?_name]
    refine (operands.follows_operands hq hfuel).bind (by omega) fun q hq hc => ?_
    exact Follows.pure hq (by omega)
  | _, .bareCall name free, fuel, depth, p, rest, hp, hend, hfuel => by
    refine Rule.follows_enter (Nat.succ_pos _) hp hfuel fun fuel p hp hfuel hc => ?_
    refine follows_term_name hp fun q hq => ?_
    rw [free]
    refine (follows_arguments_nil hq hc).bind (Nat.le_refl _) fun q hq hc => ?_
    exact Follows.pure hq hc
  | _, .call name free operands, fuel, depth, p, rest, hp, hend, hfuel => by
    refine Rule.follows_enter (Nat.succ_pos _) hp hfuel fun fuel p hp hfuel hc => ?_
    simp only [Derivation.levels]
    refine follows_term_name hp fun q hq => ?_
    rw [free]
    obtain ⟨t, ts, hts, ht⟩ := operands.exists_tokens_eq_cons
    refine (follows_arguments hq (by simp [hts, ht]) fun q hq =>
      operands.follows_operands hq hfuel).bind (by omega) fun q hq hc => ?_
    exact Follows.pure hq (by omega)

/-- The operands behind a semicolon are read up to the closing parenthesis. -/
theorem Operands.follows_more : (os : Operands) → {fuel depth n : Nat} → {p : Parser} →
    {rest : List Token} → p.Stands (.symbol .semicolon :: (os.tokens ++ rest)) depth →
    os.tokens.length ≤ n → ceiling ≤ depth + fuel →
    Follows (moreOperands (Rule.enter ceiling fuel .expression) n) p ceiling (depth + os.levels)
      os.formulas (.symbol .rightParen :: rest) depth
  | .last operand, fuel, depth, n, p, rest, hp, hn, hfuel => by
    rw [Operands.tokens, List.append_assoc, List.singleton_append] at hp
    rw [Operands.tokens, List.length_append, List.length_singleton] at hn
    obtain ⟨n, rfl⟩ : ∃ m, n = m + 1 := ⟨n - 1, by omega⟩
    refine follows_moreOperands_step hp (fun q hq =>
      operand.follows_enter hq (Rule.endsBefore_rightParen _) hfuel) (Nat.le_refl _) ?_
    exact fun q hq hc => follows_moreOperands_done n hq (by simp) hc
  | .more operand others, fuel, depth, n, p, rest, hp, hn, hfuel => by
    rw [Operands.tokens, List.append_assoc, List.cons_append] at hp
    rw [Operands.tokens, List.length_append, List.length_cons] at hn
    obtain ⟨n, rfl⟩ : ∃ m, n = m + 1 := ⟨n - 1, by omega⟩
    simp only [Operands.levels]
    refine follows_moreOperands_step hp (fun q hq =>
      operand.follows_enter hq (Rule.endsBefore_semicolon _) hfuel) (by omega) fun q hq hc => ?_
    refine (others.follows_more hq (by omega) hfuel).raise ?_ ?_ <;> omega

/-- A list of operands is read with the parenthesis that closes it. -/
theorem Operands.follows_operands : (os : Operands) → {fuel depth : Nat} → {p : Parser} →
    {rest : List Token} → p.Stands (os.tokens ++ rest) depth → ceiling ≤ depth + fuel →
    Follows (Parser.operands (Rule.enter ceiling fuel .expression)) p ceiling (depth + os.levels)
      os.formulas rest depth
  | .last operand, fuel, depth, p, rest, hp, hfuel => by
    rw [Operands.tokens, List.append_assoc, List.singleton_append] at hp
    refine (operand.follows_enter hp (Rule.endsBefore_rightParen _) hfuel).bind (Nat.le_refl _)
      fun q hq hc => Ensures.get_bind ?_
    refine (follows_moreOperands_done _ hq (by simp) hc).bind (Nat.le_refl _) fun q hq hc => ?_
    exact hq.ensures_expect.bind fun _ q hq => Follows.pure hq hc
  | .more operand others, fuel, depth, p, rest, hp, hfuel => by
    rw [Operands.tokens, List.append_assoc, List.cons_append] at hp
    simp only [Operands.levels]
    refine (operand.follows_enter hp (Rule.endsBefore_semicolon _) hfuel).bind (by omega)
      fun q hq hc => Ensures.get_bind ?_
    -- each of the other operands reads a token, so the fuel for them is enough
    have hlen := hq.length_le
    rw [List.length_cons, List.length_append] at hlen
    refine Follows.bind (others.follows_more hq (by omega) hfuel) (by omega) fun q hq hc => ?_
    exact hq.ensures_expect.bind fun _ q hq => Follows.pure hq (by omega)

end

/-- A parser that stands before the tokens of a program reads it, but for the ceiling. -/
theorem Derivation.follows_program (d : Derivation .program) (hp : p.Stands d.tokens 0) :
    Follows (Rule.program.enter ceiling (Rule.fuelAt ceiling 1)) p ceiling d.levels d.formula []
      0 := by
  have hfuel : ceiling ≤ 0 + Rule.fuelAt ceiling 1 := by
    rw [Rule.fuelAt]
    omega
  have hfollows : Follows (Rule.program.enter ceiling (Rule.fuelAt ceiling 1)) p ceiling
      (0 + d.levels) d.formula [] 0 :=
    d.follows_enter (by rwa [List.append_nil]) trivial hfuel
  rwa [Nat.zero_add] at hfollows

end SheetFormula
