import Mathlib.Order.Nat
import SheetFormula.Proofs.Parser.Congruence
import SheetFormula.Proofs.Parser.Language
import SheetFormula.Proofs.Token.ReadBack

/-!
# What the ceiling decides

The ceiling decides whether a source is refused, and nothing else. A run that is not refused under
one ceiling is the same under every higher one (`Rule.agrees_run`), so each source has one
threshold: up to it all ceilings refuse the source, and above it all have the same outcome.

The threshold is bounded by the tokens in front of the first place where no token can be read. A
rule that is entered before so many tokens cannot nest more than four rules for each of them, and so
it is not refused where the ceiling leaves that many levels (`Rule.unrefused_enter`). Sources of
opening parentheses need all of these levels (`Rule.refuses_enter_openings`).
-/

namespace SheetFormula

open SheetFormula.Parser SheetFormula.Parse SheetFormula.Sequence

/-- Whether a syntax error is a **refusal** at the ceiling. -/
def SyntaxError.IsRefusal (e : SyntaxError) : Prop := e.fault = .maximumDepth

/-! ### Higher ceilings -/

section Agreement

/-- Agreement but for refusals goes through the rules. -/
theorem congruence_agreesButFor :
    Congruence fun _ a b => AgreesButFor SyntaxError.IsRefusal a b where
  refl _ := .refl _
  bind := .bind

variable {α : Type} {a b : Parse α} {m m' : Nat}

/-- What a higher ceiling admits is what the lower one admits, and perhaps more. -/
theorem agrees_descend (hm : m ≤ m') (h : AgreesButFor SyntaxError.IsRefusal a b) :
    AgreesButFor SyntaxError.IsRefusal (descend m a) (descend m' b) := by
  intro p
  rcases Nat.lt_or_ge (p.depth + 1) m with hc | hc
  · have hc' : p.depth + 1 < m' := Nat.lt_of_lt_of_le hc hm
    rcases h p.entered with ⟨e, q, hq, he⟩ | hb
    · exact .inl ⟨e, q.left, descend_of_error hc hq, he⟩
    · cases ha : a p.entered with
      | ok x q => exact .inr ((descend_of_ok hc' (hb.trans ha)).trans (descend_of_ok hc ha).symm)
      | error e q =>
        exact .inr ((descend_of_error hc' (hb.trans ha)).trans (descend_of_error hc ha).symm)
  · exact .inl ⟨_, _, descend_refused hc, rfl⟩

/-- **A higher ceiling only admits more**: a run that is not refused is the same under it. -/
theorem Rule.agrees_run {n n' : Nat} (hm : m ≤ m') (hn : n ≤ n') (r : Rule) :
    AgreesButFor SyntaxError.IsRefusal (run m n r) (run m' n' r) := by
  induction n generalizing n' r with
  -- a run without fuel is refused as one at the ceiling is
  | zero => exact fun _ => .inl ⟨_, _, rfl, rfl⟩
  | succ n ih =>
    obtain ⟨n', rfl⟩ : ∃ k, n' = k + 1 := ⟨n' - 1, by omega⟩
    exact congruence_agreesButFor.body _ _
      (fun below => agrees_descend hm (ih (Nat.le_of_succ_le_succ hn) below)) r

end Agreement

namespace Formula

/-- Whether a source is **refused** under a ceiling. -/
def Refused (m : Nat) (source : String) : Prop :=
  ∃ e, parse m source = .error e ∧ e.IsRefusal

variable {m m' : Nat} {source : String}

/-- A source that is not refused has the same outcome under every higher ceiling. -/
theorem refused_or_parse_eq (hm : m ≤ m') (source : String) :
    Refused m source ∨ parse m' source = parse m source := by
  have hfuel : Rule.fuelAt m 1 ≤ Rule.fuelAt m' 1 := by
    rw [Rule.fuelAt, Rule.fuelAt]
    omega
  rcases agrees_descend hm (Rule.agrees_run hm hfuel .program) (start source) with
    ⟨e, q, hrun, he⟩ | hrun
  · refine .inl ⟨e, ?_, he⟩
    rw [parse_eq_match, Rule.enter, hrun]
  · refine .inr ?_
    rw [parse_eq_match, parse_eq_match, Rule.enter, Rule.enter, hrun]

theorem refused_zero (source : String) : Refused 0 source := by
  have hc : 0 ≤ (start source).depth + 1 := Nat.zero_le _
  refine ⟨⟨(start source).position, .maximumDepth⟩, ?_, rfl⟩
  rw [parse_eq_match, Rule.enter, descend_refused hc]

end Formula

/-! ### How deep so many tokens can lead -/

/-- The tokens at the front of what is read, up to the first place where no token can be read. -/
def Reading.leadingTokens : List Reading → List Token
  | .token t :: rs => t :: leadingTokens rs
  | _ => []

/-- The tokens of a source in front of the first place where no token can be read. -/
def Item.leadingTokens (source : String) : List Token :=
  Reading.leadingTokens ((Item.list source).map Item.reading)

namespace Parser

/-- The number of tokens that a parser can take before it ends or no token can be read. -/
def reach (p : Parser) : Nat := (Reading.leadingTokens (p.upcoming.map Prod.fst)).length

/-- `q` is `p` at the same depth, when at least `n` tokens have been taken. -/
structure Spent (p : Parser) (n : Nat) (q : Parser) : Prop where
  depth : q.depth = p.depth
  reach : q.reach + n ≤ p.reach

variable {p q r : Parser} {n k : Nat} {t : Token} {s : Nat} {rest : List (Reading × Nat)}

theorem reach_token (h : p.upcoming = (.token t, s) :: rest) (hq : p.MovedTo rest q) :
    p.reach = q.reach + 1 := by
  rw [reach, reach, h, hq.upcoming]
  rfl

theorem Spent.refl (p : Parser) : p.Spent 0 p := ⟨rfl, Nat.le_refl _⟩

theorem Spent.trans (h : p.Spent n q) (h' : q.Spent k r) : p.Spent (n + k) r := by
  refine ⟨h'.depth.trans h.depth, ?_⟩
  have hp := h.reach
  have hq := h'.reach
  omega

theorem Spent.mono (h : p.Spent n q) (hk : k ≤ n) : p.Spent k q :=
  ⟨h.depth, Nat.le_trans (Nat.add_le_add_left hk _) h.reach⟩

end Parser

/-- A run is **unrefused** that takes at least `n` tokens if it has a result, and whose error, if it
has one, is no refusal. -/
def Parse.Unrefused {α : Type} (a : Parse α) (p : Parser) (n : Nat) : Prop :=
  Ensures a p (fun _ q => p.Spent n q) fun e _ => ¬ e.IsRefusal

namespace Parse.Unrefused

variable {α β : Type} {a : Parse α} {f : α → Parse β} {p : Parser} {x : α} {n k : Nat}

theorem pure : Unrefused (Pure.pure x) p 0 := Ensures.pure (.refl p)

theorem throw {e : SyntaxError} (h : ¬ e.IsRefusal) : Unrefused (throw e : Parse α) p n :=
  .of_eq_error rfl h

theorem mono (ha : Unrefused a p n) (hk : k ≤ n) : Unrefused a p k :=
  Ensures.mono ha (fun _ _ h => h.mono hk) fun _ _ h => h

theorem bind (ha : Unrefused a p n) (hf : ∀ x q, p.Spent n q → Unrefused (f x) q 0) :
    Unrefused (a >>= f) p n :=
  Ensures.bind ha fun x q hq => Ensures.mono (hf x q hq) (fun _ _ h => hq.trans h) fun _ _ h => h

/-- A sequence is unrefused whatever its first part takes. -/
theorem bind_zero (ha : Unrefused a p n) (hf : ∀ x q, p.Spent 0 q → Unrefused (f x) q 0) :
    Unrefused (a >>= f) p 0 :=
  (ha.mono (Nat.zero_le n)).bind hf

end Parse.Unrefused

namespace Parser

variable {p : Parser}

theorem unrefused_peek (p : Parser) : Unrefused peek p 0 := by
  rcases hup : p.upcoming with _ | ⟨⟨t | f, s⟩, rest⟩
  · obtain ⟨q, hq, hmoved, -⟩ := peek_end hup
    refine .of_eq_ok hq ⟨hmoved.depth, Nat.le_of_eq ?_⟩
    rw [Nat.add_zero, reach, reach, hmoved.upcoming, hup]
  · obtain ⟨q, hq, hmoved, -⟩ := peek_token hup
    refine .of_eq_ok hq ⟨hmoved.depth, Nat.le_of_eq ?_⟩
    rw [Nat.add_zero, reach, reach, hmoved.upcoming]
  · obtain ⟨q, hq⟩ := peek_fault hup
    exact .of_eq_error hq nofun

theorem unrefused_next (p : Parser) : Unrefused next p 1 := by
  rcases hup : p.upcoming with _ | ⟨⟨t | f, s⟩, rest⟩
  · obtain ⟨q, hq⟩ := next_end hup
    exact .of_eq_error hq nofun
  · obtain ⟨q, hq, hmoved⟩ := next_token hup
    exact .of_eq_ok hq ⟨hmoved.depth, Nat.le_of_eq (reach_token hup hmoved).symm⟩
  · obtain ⟨q, hq⟩ := next_fault hup
    exact .of_eq_error hq nofun

theorem unrefused_expectSymbol (s : Symbol) (p : Parser) : Unrefused (expectSymbol s) p 1 := by
  rcases hup : p.upcoming with _ | ⟨⟨t | f, start⟩, rest⟩
  · obtain ⟨q, hq⟩ := expect_end hup
    exact .of_eq_error hq nofun
  · by_cases ht : t = .symbol s
    · subst ht
      obtain ⟨q, hq, hmoved⟩ := expect_symbol hup
      exact .of_eq_ok hq ⟨hmoved.depth, Nat.le_of_eq (reach_token hup hmoved).symm⟩
    · obtain ⟨q, hq⟩ := expect_other hup ht
      exact .of_eq_error hq nofun
  · obtain ⟨q, hq⟩ := expect_fault hup
    exact .of_eq_error hq nofun

theorem unrefused_peekIs (t : Token) (p : Parser) : Unrefused (peekIs t) p 0 :=
  (unrefused_peek p).bind fun _ _ _ => .pure

end Parser

/-- An action is **admitted** behind `n` tokens if it is unrefused wherever the parser has taken so
many, and takes a token there. -/
def Parse.Admitted {α : Type} (a : Parse α) (p : Parser) (n : Nat) : Prop :=
  ∀ q, p.Spent n q → Unrefused a q 1

section Rules

variable {α : Type} {operand : Parse Formula} {p q : Parser} {n : Nat}

theorem Parse.Admitted.after {a : Parse α} (h : Admitted a p n) (hq : p.Spent n q) :
    Admitted a q 0 := fun r hr => h r (hq.trans hr)

theorem Parse.Admitted.unrefused {a : Parse α} (h : Admitted a p 0) : Unrefused a p 0 :=
  (h p (.refl p)).mono (Nat.zero_le 1)

theorem unrefused_moreOperands (h : Admitted operand p 0) (fuel : Nat) :
    Unrefused (moreOperands operand fuel) p 0 := by
  induction fuel generalizing p with
  | zero => exact .pure
  | succ fuel ih =>
    rw [moreOperands]
    refine (unrefused_peekIs _ p).bind fun semicolon q hq => ?_
    cases semicolon with
    | false => exact .pure
    | true =>
      refine (unrefused_next q).bind_zero fun _ r hr => ?_
      have hoperand := (h.after hq).after hr
      refine hoperand.unrefused.bind fun _ s hs => ?_
      exact (ih (hoperand.after hs)).bind fun _ _ _ => .pure

theorem unrefused_operands (h : Admitted operand p 0) :
    Unrefused (Parser.operands operand) p 0 := by
  refine h.unrefused.bind fun _ q hq => Ensures.get_bind ?_
  refine (unrefused_moreOperands (h.after hq) _).bind fun _ r _ => ?_
  exact (unrefused_expectSymbol _ r).bind_zero fun _ _ _ => .pure

/-- An operand and the symbol behind it are unrefused before what is. -/
theorem unrefused_operand_then {s : Symbol} {k : Formula → Parse α}
    (h : Admitted operand p 0) (hk : ∀ f q, p.Spent 0 q → Unrefused (k f) q 0) :
    Unrefused (do let f ← operand; expectSymbol s; k f) p 0 := by
  refine h.unrefused.bind fun f q hq => ?_
  refine (unrefused_expectSymbol s q).bind_zero fun _ r hr => ?_
  exact hk f r (hq.trans hr)

theorem unrefused_form (h : Admitted operand p 0) (reserved : Form) :
    Unrefused (form operand reserved) p 0 := by
  cases reserved with
  | conditional =>
    refine unrefused_operand_then h fun _ q hq => ?_
    refine unrefused_operand_then (h.after hq) fun _ r hr => ?_
    exact unrefused_operand_then ((h.after hq).after hr) fun _ _ _ => .pure
  | constant b => exact (unrefused_expectSymbol _ p).bind_zero fun _ _ _ => .pure
  | negation => exact unrefused_operand_then h fun _ _ _ => .pure
  | junction kind => exact (unrefused_operands h).bind fun _ _ _ => .pure

theorem unrefused_arguments (h : Admitted operand p 0) : Unrefused (arguments operand) p 0 := by
  refine (unrefused_peekIs _ p).bind fun closed q hq => ?_
  cases closed with
  | false => exact unrefused_operands (h.after hq)
  | true => exact (unrefused_next q).bind_zero fun _ _ _ => .pure

theorem unrefused_negativeNumber (p : Parser) : Unrefused negativeNumber p 0 := by
  refine (unrefused_peek p).bind fun next? q _ => ?_
  rcases next? with _ | (x | _ | _ | _)
  case some.number =>
    exact (unrefused_next q).bind_zero fun _ _ _ => .pure
  all_goals exact Ensures.get_bind (Unrefused.throw nofun)

/-- A term is unrefused if its operands are admitted behind its first token. -/
theorem unrefused_term (h : Admitted operand p 1) : Unrefused (Parser.term operand) p 1 := by
  refine (unrefused_next p).bind ?_
  rintro ⟨x | s | name | s, start⟩ q hq
  · exact .pure
  · exact .pure
  · refine (unrefused_peekIs _ q).bind fun paren r hr => ?_
    cases paren with
    | false => exact .pure
    | true =>
      refine (unrefused_next r).bind_zero fun _ r' hr' => ?_
      have hoperand := ((h.after hq).after hr).after hr'
      cases Form.ofName? name with
      | some reserved => exact unrefused_form hoperand reserved
      | none => exact (unrefused_arguments hoperand).bind fun _ _ _ => .pure
  · cases s with
    | leftParen => exact unrefused_operand_then (h.after hq) fun _ _ _ => .pure
    | minus => exact unrefused_negativeNumber q
    | _ => exact .throw nofun

theorem unrefused_chain {l : Level} {leftSide rightSide : Parse Formula}
    (hleft : Unrefused leftSide p 1) (hright : Admitted rightSide p 1) :
    Unrefused (chain l leftSide rightSide) p 1 := by
  refine hleft.bind fun _ q hq => ?_
  refine ((unrefused_peek q).bind fun _ _ _ => .pure).bind fun op? r hr => ?_
  cases op? with
  | none => exact .pure
  | some op =>
    refine (unrefused_next r).bind_zero fun _ s hs => ?_
    have hside := ((hright.after hq).after hr).after hs
    exact hside.unrefused.bind fun _ _ _ => .pure

theorem unrefused_program {expression : Parse Formula} (h : Unrefused expression p 1) :
    Unrefused (Parser.program expression) p 1 := by
  refine h.bind fun _ q _ => (unrefused_peek q).bind fun _ r _ => Ensures.get_bind ?_
  cases r.ahead with
  | none => exact (Unrefused.pure : Unrefused (pure _) r 0)
  | some t =>
    have hthrow : ¬ SyntaxError.IsRefusal ⟨t.start, .trailingToken t.token⟩ := nofun
    exact Ensures.of_eq_error rfl hthrow

end Rules

/-- **Tokens bound the nesting.** A rule is not refused where the ceiling leaves four levels for
each token ahead, and the levels down to a term. -/
theorem Rule.unrefused_enter {m fuel : Nat} {r : Rule} {p : Parser}
    (hfuel : m ≤ p.depth + fuel) (hreach : p.depth + 5 + 4 * p.reach < m + r.place) :
    Unrefused (r.enter m fuel) p 1 := by
  have hplace : r.place ≤ 4 := r.place_le
  induction fuel generalizing r p with
  | zero => omega
  | succ fuel ih =>
    refine ensures_descend (fun hc => absurd hc (by omega)) fun hc => ?_
    have hdepth : p.entered.depth = p.depth + 1 := rfl
    have hsame : p.entered.reach = p.reach := rfl
    -- a rule below runs one level deeper, but it is tighter or has a token less ahead
    have hbelow : ∀ (below : Rule) (n : Nat), r.place < below.place + 4 * n →
        Admitted (below.enter m fuel) p.entered n := by
      intro below n hn q hq
      have hqdepth := hq.depth
      have hqreach := hq.reach
      exact ih (by omega) (by omega) below.place_le
    have hbody : Unrefused (r.body (Rule.enter m fuel)) p.entered 1 := by
      cases r with
      | program => exact unrefused_program (hbelow .expression 0 (by decide) _ (.refl _))
      | level l =>
        have htighter : (Rule.level l).place < l.tighter.place := by
          rw [Level.place_tighter, Rule.place]
          omega
        exact unrefused_chain (hbelow l.tighter 0 htighter _ (.refl _))
          (hbelow (.level l) 1 (by omega))
      | term => exact unrefused_term (hbelow .expression 1 (by decide))
    exact Ensures.mono hbody (fun _ q hq => ⟨congrArg (· - 1) hq.depth, hq.reach⟩) fun _ _ h => h

/-! ### Opening parentheses -/

/-- A run **refuses** if it ends in a refusal. -/
def Parse.Refuses {α : Type} (a : Parse α) (p : Parser) : Prop :=
  Ensures a p (fun _ _ => False) fun e _ => e.IsRefusal

theorem Parse.Refuses.bind {α β : Type} {a : Parse α} {f : α → Parse β} {p : Parser}
    (h : Refuses a p) : Refuses (a >>= f) p :=
  Ensures.bind h fun _ _ hf => hf.elim

/-- **Opening parentheses nest as deep as tokens can**: each of them leads four rules deeper, and
the place behind the last one is still five levels below a program. -/
theorem Rule.refuses_enter_openings {m fuel n depth : Nat} {r : Rule} {p : Parser}
    (hp : p.Stands (List.replicate n (.symbol .leftParen)) depth)
    (hm : m + r.place ≤ depth + 5 + 4 * n) : Refuses (r.enter m fuel) p := by
  have hexpression : expression.place = 1 := rfl
  induction fuel generalizing n depth r p with
  | zero => exact ensures_descend (fun _ => rfl) fun _ => .of_eq_error rfl rfl
  | succ fuel ih =>
    refine ensures_descend (fun _ => rfl) fun hc => ?_
    -- the first rule that is entered below is refused, at the ceiling or further down
    cases r with
    | program =>
      rw [Rule.place] at hm
      have hbody := ih (r := expression) hp.entered (by omega)
      exact hbody.bind
    | level l =>
      have hplace := l.place_tighter
      rw [Rule.place] at hm
      have htighter := ih (r := l.tighter) hp.entered (by omega)
      exact htighter.bind
    | term =>
      have hdepth := hp.depth_eq
      rw [Rule.place] at hm
      cases n with
      | zero => omega
      | succ n =>
        refine hp.entered.ensures_next.bind ?_
        rintro ⟨t, start⟩ q ⟨rfl, hq⟩
        have hinner := ih (r := expression) hq (by omega)
        exact hinner.bind

theorem spells_openings (n : Nat) :
    Spells (List.replicate n '(') (List.replicate n (.symbol .leftParen)) := by
  induction n with
  | zero => exact .nil
  | succ n ih => exact ih.opened

/-! ### The threshold of a source -/

namespace Formula

variable {m m' : Nat} {source : String}

/-- A source is not refused where the ceiling leaves four levels for each of its leading tokens. -/
theorem not_refused (hm : 5 + 4 * (Item.leadingTokens source).length < m) :
    ¬ Refused m source := by
  have hreach : (start source).reach = (Item.leadingTokens source).length := by
    rw [reach, upcoming_start, List.map_map]
    rfl
  have hdepth : (start source).depth = 0 := rfl
  have hplace : Rule.program.place = 0 := rfl
  have hrun : Unrefused (Rule.program.enter m (Rule.fuelAt m 1)) (start source) 1 := by
    refine Rule.unrefused_enter ?_ (by omega)
    rw [Rule.fuelAt]
    omega
  rintro ⟨e, he, hrefusal⟩
  obtain ⟨q, hq⟩ := parse_eq_error he
  exact Ensures.failed_of_error hrun hq hrefusal

/-- A ceiling refuses what a higher one refuses. -/
theorem Refused.anti (h : Refused m' source) (hm : m ≤ m') : Refused m source := by
  rcases refused_or_parse_eq hm source with hlow | heq
  · exact hlow
  · obtain ⟨e, he, hrefusal⟩ := h
    exact ⟨e, heq.symm.trans he, hrefusal⟩

/-- There is one ceiling up to which a source is refused and above which it is not. -/
theorem exists_threshold (source : String) :
    ∃ threshold ≤ 5 + 4 * (Item.leadingTokens source).length,
      ∀ m, Refused m source ↔ m ≤ threshold := by
  classical
  have hsome : ∃ m, ¬ Refused m source := ⟨_, not_refused (Nat.lt_succ_self _)⟩
  have hpos : 0 < Nat.find hsome := by
    rw [Nat.find_pos, not_not]
    exact refused_zero source
  have hle : Nat.find hsome ≤ 5 + 4 * (Item.leadingTokens source).length + 1 :=
    Nat.find_min' hsome (not_refused (Nat.lt_succ_self _))
  refine ⟨Nat.find hsome - 1, by omega, fun m => ⟨fun h => ?_, fun h => ?_⟩⟩
  · by_contra hlt
    exact Nat.find_spec hsome (h.anti (by omega))
  · exact not_not.mp (Nat.find_min hsome (by omega))

/-- Opening parentheses are refused as long as the tokens allow. -/
theorem refused_openings {n : Nat} (hm : m ≤ 5 + 4 * n) :
    Refused m (String.ofList (List.replicate n '(')) := by
  have hstands := (spells_openings n).lexes.stands_start
  have hplace : Rule.program.place = 0 := rfl
  have hrun : Refuses (Rule.program.enter m (Rule.fuelAt m 1)) _ :=
    Rule.refuses_enter_openings hstands (by omega)
  rw [Refused, parse_eq_match]
  cases h : Rule.program.enter m (Rule.fuelAt m 1) _ with
  | ok f q => exact (Ensures.done_of_ok hrun h).elim
  | error e q => exact ⟨e, rfl, Ensures.failed_of_error hrun h⟩

/-- **The ceiling only ever refuses, and every source has one threshold.** What is not refused under
a ceiling has the same outcome under every higher one, and what is refused is refused under every
lower one. The threshold is at most five and four for each token in front of the first place where
no token can be read, and opening parentheses have just that one. -/
theorem parse_ceiling (source : String) :
    (∀ m m', m ≤ m' → ¬ Refused m source → parse m' source = parse m source) ∧
    (∀ m m', m ≤ m' → Refused m' source → Refused m source) ∧
    (∃ threshold ≤ 5 + 4 * (Item.leadingTokens source).length,
      ∀ m, Refused m source ↔ m ≤ threshold) ∧
    (∀ m, 5 + 4 * (Item.leadingTokens source).length < m → ¬ Refused m source) ∧
    ∀ n m, m ≤ 5 + 4 * n → Refused m (String.ofList (List.replicate n '(')) := by
  refine ⟨fun m m' hm h => ?_, fun m m' hm h => h.anti hm, exists_threshold source,
    fun m hm => not_refused hm, fun n m hm => refused_openings hm⟩
  exact (refused_or_parse_eq hm source).resolve_left h

theorem parse_ceiling_group :
    parse 10 "(A)" = .ok (.reference "A") ∧ parse 1024 "(A)" = .ok (.reference "A") ∧
      ¬ Refused 18 "(A)" ∧ Refused 17 "(((" := by
  obtain ⟨hsame, -, -, htokens, hopenings⟩ := parse_ceiling "(A)"
  have hten : parse 10 "(A)" = .ok (.reference "A") := by
    refine parse_eq_ok_iff.mpr ⟨.program (.operand (.operand (.operand (.group
      (.operand (.operand (.operand (.reference "A")))))))), ?_, rfl, by decide⟩
    decide +kernel
  have hunrefused : ¬ Refused 10 "(A)" := by
    rintro ⟨e, he, -⟩
    cases hten.symm.trans he
  refine ⟨hten, (hsame 10 1024 (by decide) hunrefused).trans hten, ?_, ?_⟩
  · exact htokens 18 (by decide +kernel)
  · exact hopenings 3 17 (by decide)

end Formula

end SheetFormula
