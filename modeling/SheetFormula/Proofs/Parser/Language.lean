import SheetFormula.Proofs.Parser.Completeness
import SheetFormula.Proofs.Parser.Soundness
import SheetFormula.Proofs.Token.Items

/-!
# The language of formulas

The parser accepts a source under a ceiling exactly when the source is cut into the tokens of a
program that nests less deep than the ceiling (`Formula.parse_eq_ok_iff`), and the formula that it
yields is the one of the derivation. Since tokens have one derivation at most, the ceiling is the
only thing that can keep a program from being read, and it cannot where it is well above four times
the number of tokens.
-/

namespace SheetFormula

open SheetFormula.Parser SheetFormula.Parse SheetFormula.Sequence

/-! ### A parser at the start -/

namespace Lexes

variable {source : String} {ts : List Token}

theorem stands_start (h : Lexes source ts) : (start source).Stands ts 0 := by
  refine ⟨?_, rfl⟩
  rw [upcoming_start, List.map_map]
  exact h

/-- A source lexes to the tokens that lie ahead of a parser which starts on it. -/
theorem of_upcoming {taken : List Located}
    (h : (start source).upcoming = taken.map Located.seen) :
    Lexes source (taken.map Located.token) := by
  have hreadings := congrArg (List.map Prod.fst) h
  rw [upcoming_start, List.map_map, List.map_map] at hreadings
  rw [Lexes, List.map_map]
  exact hreadings

end Lexes

/-! ### Whole runs -/

namespace Formula

/-- A parse enters the rule for programs at the start of the source. -/
theorem parse_eq_match (m : Nat) (source : String) :
    parse m source =
      match Rule.program.enter m (Rule.fuelAt m 1) (start source) with
      | .ok f _ => .ok f
      | .error e _ => .error e :=
  rfl

variable {m : Nat} {source : String} {f : Formula} {e : SyntaxError}

theorem parse_eq_ok (h : parse m source = .ok f) :
    ∃ q, Rule.program.enter m (Rule.fuelAt m 1) (start source) = .ok f q := by
  rw [parse_eq_match] at h
  split at h
  · next q hrun =>
    cases h
    exact ⟨q, hrun⟩
  · cases h

theorem parse_eq_error (h : parse m source = .error e) :
    ∃ q, Rule.program.enter m (Rule.fuelAt m 1) (start source) = .error e q := by
  rw [parse_eq_match] at h
  split at h
  · cases h
  · next q hrun =>
    cases h
    exact ⟨q, hrun⟩

/-- A source that lexes to the tokens of a program is parsed, but for the ceiling. -/
theorem parse_of_lexes {d : Derivation .program} (h : Lexes source d.tokens) :
    (parse m source = .ok d.formula ∧ d.levels < m) ∨
      ∃ e, parse m source = .error e ∧ e.fault = .maximumDepth ∧ m ≤ d.levels := by
  have hfollows : Follows (Rule.program.enter m (Rule.fuelAt m 1)) (start source) m d.levels
      d.formula [] 0 :=
    d.follows_program h.stands_start
  rw [parse_eq_match]
  cases hrun : Rule.program.enter m (Rule.fuelAt m 1) (start source) with
  | ok f q =>
    obtain ⟨rfl, -, hlevels⟩ := hfollows.of_ok hrun
    exact .inl ⟨rfl, hlevels⟩
  | error e q =>
    obtain ⟨he, hlevels⟩ := hfollows.of_error hrun
    exact .inr ⟨e, rfl, he, hlevels⟩

/-- Nothing is left where a program has been read. -/
theorem upcoming_of_enter_program {fuel : Nat} {p q : Parser}
    (h : Rule.program.enter m fuel p = .ok f q) : q.upcoming = [] := by
  rcases Nat.lt_or_ge (p.depth + 1) m with hc | hc
  · cases hrun : Rule.run m fuel .program p.entered with
    | error e r => cases (descend_of_error hc hrun).symm.trans h
    | ok g r =>
      cases (descend_of_ok hc hrun).symm.trans h
      cases fuel with
      | zero => cases hrun
      | succ fuel =>
        obtain ⟨g, s, hs⟩ : ∃ g s, Rule.expression.enter m fuel p.entered = .ok g s := by
          cases hs : Rule.expression.enter m fuel p.entered with
          | ok g s => exact ⟨g, s, rfl⟩
          | error e s => cases (bind_eq_of_error hs).symm.trans hrun
        have hfinish : finish g s = .ok f r := (bind_eq_of_ok hs).symm.trans hrun
        have hleft : r.upcoming = [] := upcoming_of_finish hfinish
        exact hleft
  · cases (descend_refused hc).symm.trans h

/-- What is parsed is the formula of a program, to whose tokens the source lexes. -/
theorem exists_derivation (h : parse m source = .ok f) :
    ∃ d : Derivation .program, Lexes source d.tokens ∧ d.formula = f := by
  obtain ⟨q, hrun⟩ := parse_eq_ok h
  obtain ⟨taken, hleads, d, hf, hd⟩ := (Rule.scans_enter m _ .program _).leadsTo_of_ok hrun
  have hahead := hleads.ahead
  rw [upcoming_of_enter_program hrun, List.append_nil] at hahead
  exact ⟨d, hd ▸ Lexes.of_upcoming hahead, hf⟩

/-- **What is parsed under a ceiling**: the sources that lex to the tokens of a program which nests
less deep. -/
theorem parse_eq_ok_iff :
    parse m source = .ok f ↔
      ∃ d : Derivation .program, Lexes source d.tokens ∧ d.formula = f ∧ d.levels < m := by
  constructor
  · intro h
    obtain ⟨d, hd, rfl⟩ := exists_derivation h
    rcases parse_of_lexes (m := m) hd with ⟨-, hlevels⟩ | ⟨e, he, -⟩
    · exact ⟨d, hd, rfl, hlevels⟩
    · cases he.symm.trans h
  · rintro ⟨d, hd, rfl, hlevels⟩
    rcases parse_of_lexes (m := m) hd with ⟨h, -⟩ | ⟨e, -, -, hm⟩
    · exact h
    · exact absurd hlevels (Nat.not_lt_of_le hm)

/-- A ceiling well above four times the number of tokens admits every program. -/
theorem parse_of_length_lt {d : Derivation .program} (h : Lexes source d.tokens)
    (hm : 5 + 4 * d.tokens.length < m) : parse m source = .ok d.formula := by
  have hlevels : d.levels + 0 ≤ 4 * d.tokens.length + 1 := d.levels_add_place_le
  exact parse_eq_ok_iff.mpr ⟨d, h, rfl, by omega⟩

/-- **The parser accepts its grammar and nothing else.** Under a ceiling well above four times the
number of tokens, a source is parsed as a formula just when all of it lexes to the tokens of a
derivation of that formula; and tokens have one derivation at most. -/
theorem parse_accepts_grammar (source : String) (m : Nat)
    (hm : 5 + 4 * (Item.tokens source).length < m) :
    (∀ f, parse m source = .ok f ↔ ∃ ts, Lexes source ts ∧
      ∃ d : Derivation .program, d.tokens = ts ∧ d.formula = f) ∧
    ∀ (ts : List Token) (d d' : Derivation .program), d.tokens = ts → d'.tokens = ts → d = d' := by
  refine ⟨fun f => ?_, ?_⟩
  · constructor
    · intro h
      obtain ⟨d, hd, hf⟩ := exists_derivation h
      exact ⟨d.tokens, hd, d, rfl, hf⟩
    · rintro ⟨_, hts, d, rfl, rfl⟩
      rw [hts.tokens_eq] at hm
      exact parse_of_length_lt hts hm
  · rintro _ d d' rfl hd'
    exact d.tokens_injective hd'.symm

theorem parse_accepts_grammar_negation :
    5 + 4 * (Item.tokens "NOT(A)").length < 22 ∧
      parse 22 "NOT(A)" = .ok (.negation (.reference "A")) := by
  have hm : 5 + 4 * (Item.tokens "NOT(A)").length < 22 := by decide +kernel
  refine ⟨hm, ((parse_accepts_grammar "NOT(A)" 22 hm).1 _).mpr ?_⟩
  refine ⟨[.name "NOT", .symbol .leftParen, .name "A", .symbol .rightParen], by decide +kernel, ?_⟩
  exact ⟨.program (.operand (.operand (.operand (.negation
    (.operand (.operand (.operand (.reference "A")))))))), rfl, rfl⟩

end Formula

end SheetFormula
