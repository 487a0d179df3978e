import SheetFormula.Proofs.Grammar.Derivation

/-!
# The grammar is unambiguous

Where a phrase ends is decided by the token after it: `Rule.EndsBefore` says that the token
neither opens the operands of a call nor is an operator that the rule would read on with. Under
that condition a list of tokens has at most one derivation from a rule, whatever stands behind it
(`Derivation.eq_of_tokens_append`), and so no list of tokens has two derivations
(`Derivation.tokens_injective`).
-/

namespace SheetFormula

/-! ### Where a phrase ends -/

/-- Whether a phrase read by a rule is complete before the next token: at the end of the tokens
it is, and otherwise the token is no opening parenthesis and no operator of the rule's own level
or a tighter one. Only the end completes a program. -/
def Rule.EndsBefore : Rule → Option Token → Prop
  | _, none => True
  | program, some _ => False
  | r, some t => t ≠ .symbol .leftParen ∧
      ∀ op, Operator.ofToken? t = some op → op.level.rank + 1 < r.place

/-- No operator is written as a parenthesis. -/
theorem Operator.symbol_ne_paren (op : Operator) :
    op.symbol ≠ .leftParen ∧ op.symbol ≠ .rightParen := by
  have hop := ofSymbol?_symbol op
  constructor <;> intro h <;> rw [h] at hop <;> cases hop

namespace Rule

theorem endsBefore_semicolon (l : Level) : (level l).EndsBefore (some (.symbol .semicolon)) :=
  ⟨by decide, by simp [Operator.ofToken?, Operator.ofSymbol?]⟩

theorem endsBefore_rightParen (l : Level) : (level l).EndsBefore (some (.symbol .rightParen)) :=
  ⟨by decide, by simp [Operator.ofToken?, Operator.ofSymbol?]⟩

/-- A phrase that ends before a token does so also for the rule of its left operand. -/
theorem EndsBefore.tighter {l : Level} {next : Option Token} (h : (level l).EndsBefore next) :
    l.tighter.EndsBefore next := by
  cases next with
  | none => cases l <;> trivial
  | some t =>
    obtain ⟨hparen, hop⟩ := h
    have hlt : ∀ op, Operator.ofToken? t = some op → op.level.rank + 1 < l.tighter.place := by
      intro op ht
      have hrank : op.level.rank + 1 < l.rank + 1 := hop op ht
      rw [Level.place_tighter]
      omega
    cases l <;> exact ⟨hparen, hlt⟩

/-- The left operand of an operator ends before it. -/
theorem endsBefore_operator {l : Level} {op : Operator} (h : op.symbol.level? = some l) :
    l.tighter.EndsBefore (some (.symbol op.symbol)) := by
  have hparen : Token.symbol op.symbol ≠ .symbol .leftParen := fun ht =>
    op.symbol_ne_paren.1 (Token.symbol.inj ht)
  have hlt : ∀ op', Operator.ofToken? (.symbol op.symbol) = some op' →
      op'.level.rank + 1 < l.tighter.place := by
    intro op' ht
    rw [Operator.ofToken?, Operator.ofSymbol?_symbol, Option.some.injEq] at ht
    rw [Level.place_tighter, ← ht, Operator.level?_symbol_iff.mp h]
    omega
  cases l <;> exact ⟨hparen, hlt⟩

/-- A level reads on with its own operators. -/
theorem not_endsBefore_operator {l : Level} {op : Operator} (h : op.symbol.level? = some l) :
    ¬(level l).EndsBefore (some (.symbol op.symbol)) := by
  rintro ⟨-, hop⟩
  have hlt : op.level.rank + 1 < l.rank + 1 := hop op (Operator.ofSymbol?_symbol op)
  rw [Operator.level?_symbol_iff.mp h] at hlt
  exact Nat.lt_irrefl _ hlt

/-- No term ends before an opening parenthesis. -/
theorem not_endsBefore_leftParen {ts rest : List Token} (h : .symbol .leftParen :: ts = rest) :
    ¬term.EndsBefore rest.head? := by
  rw [← h]
  exact fun he => he.1 rfl

end Rule

theorem Operator.symbol_inj {op op' : Operator} (h : op.symbol = op'.symbol) : op = op' := by
  rw [← Option.some.injEq, ← Operator.ofSymbol?_symbol op, ← Operator.ofSymbol?_symbol op', h]

/-! ### At most one derivation -/

open Rule

mutual

/-- Tokens that begin two lists, in each of which the phrase ends where its derivation does, have
one derivation and leave one rest. -/
theorem Derivation.eq_of_tokens_append : {r : Rule} → (d d' : Derivation r) →
    {rest rest' : List Token} → d.tokens ++ rest = d'.tokens ++ rest' →
    r.EndsBefore rest.head? → r.EndsBefore rest'.head? → d = d' ∧ rest = rest'
  | _, .program body, d', rest, rest', h, he, he' => by
    cases d' with
    | program body' =>
      have hrest : rest = [] := by cases rest <;> first | rfl | exact he.elim
      have hrest' : rest' = [] := by cases rest' <;> first | rfl | exact he'.elim
      subst hrest hrest'
      obtain ⟨rfl, -⟩ := body.eq_of_tokens_append body' h trivial trivial
      exact ⟨rfl, rfl⟩
  | _, .operand left, d', rest, rest', h, he, he' => by
    cases d' with
    -- the left operands are the same in any case, so the token behind them decides
    | operand left' =>
      obtain ⟨rfl, rfl⟩ := left.eq_of_tokens_append left' h he.tighter he'.tighter
      exact ⟨rfl, rfl⟩
    | binary op hl left' right' =>
      rw [Derivation.tokens, Derivation.tokens, List.append_assoc, List.cons_append] at h
      obtain ⟨rfl, rfl⟩ := left.eq_of_tokens_append left' h he.tighter (endsBefore_operator hl)
      exact absurd he (not_endsBefore_operator hl)
  | _, .binary op hl left right, d', rest, rest', h, he, he' => by
    cases d' with
    | operand left' =>
      rw [Derivation.tokens, Derivation.tokens, List.append_assoc, List.cons_append] at h
      obtain ⟨rfl, rfl⟩ := left.eq_of_tokens_append left' h (endsBefore_operator hl) he'.tighter
      exact absurd he' (not_endsBefore_operator hl)
    | binary op' hl' left' right' =>
      rw [Derivation.tokens, Derivation.tokens, List.append_assoc, List.cons_append,
        List.append_assoc, List.cons_append] at h
      obtain ⟨rfl, hrest⟩ := left.eq_of_tokens_append left' h (endsBefore_operator hl)
        (endsBefore_operator hl')
      simp only [List.cons.injEq, Token.symbol.injEq] at hrest
      obtain ⟨hop, hright⟩ := hrest
      obtain rfl := Operator.symbol_inj hop
      obtain ⟨rfl, rfl⟩ := right.eq_of_tokens_append right' hright he he'
      exact ⟨rfl, rfl⟩
  | _, .group inner, d', rest, rest', h, he, he' => by
    cases d' <;> simp only [Derivation.tokens, List.cons_append, List.nil_append, List.append_assoc,
      List.cons.injEq, Token.symbol.injEq, reduceCtorEq, true_and, false_and] at h
    case group inner' =>
      obtain ⟨rfl, hrest⟩ := inner.eq_of_tokens_append inner' h (endsBefore_rightParen _)
        (endsBefore_rightParen _)
      exact ⟨rfl, by simpa using hrest⟩
  | _, .negative x, d', rest, rest', h, he, he' => by
    cases d' <;> simp_all [Derivation.tokens]
  | _, .number x, d', rest, rest', h, he, he' => by
    cases d' <;> simp_all [Derivation.tokens]
  | _, .text s, d', rest, rest', h, he, he' => by
    cases d' <;> simp_all [Derivation.tokens]
  | _, .reference name, d', rest, rest', h, he, he' => by
    cases d' <;> simp only [Derivation.tokens, List.cons_append, List.nil_append, List.cons.injEq,
      Token.name.injEq, reduceCtorEq, false_and] at h
    case reference name' =>
      obtain ⟨rfl, rfl⟩ := h
      exact ⟨rfl, rfl⟩
    all_goals exact absurd he (not_endsBefore_leftParen h.2.symm)
  | _, .conditional condition onTrue onFalse, d', rest, rest', h, he, he' => by
    cases d' <;> simp only [Derivation.tokens, List.cons_append, List.nil_append, List.append_assoc,
      List.cons.injEq, Token.name.injEq, Form.name_inj, reduceCtorEq, true_and, false_and] at h
    case conditional condition' onTrue' onFalse' =>
      obtain ⟨rfl, hc⟩ := condition.eq_of_tokens_append condition' h (endsBefore_semicolon _)
        (endsBefore_semicolon _)
      obtain ⟨rfl, ht⟩ := onTrue.eq_of_tokens_append onTrue' (List.cons.inj hc).2
        (endsBefore_semicolon _) (endsBefore_semicolon _)
      obtain ⟨rfl, hf⟩ := onFalse.eq_of_tokens_append onFalse' (List.cons.inj ht).2
        (endsBefore_rightParen _) (endsBefore_rightParen _)
      exact ⟨rfl, (List.cons.inj hf).2⟩
    -- a reference would end before a parenthesis, and a call would have a reserved name
    case reference name' => exact absurd he' (not_endsBefore_leftParen h.2)
    case bareCall name' free' | call name' free' operands' =>
      simp [← h.1] at free'
  | _, .constant b, d', rest, rest', h, he, he' => by
    cases d' <;> simp only [Derivation.tokens, List.cons_append, List.nil_append, List.append_assoc,
      List.cons.injEq, Token.name.injEq, Form.name_inj, Form.constant.injEq, reduceCtorEq, true_and,
      false_and] at h
    case constant b' =>
      obtain ⟨rfl, rfl⟩ := h
      exact ⟨rfl, rfl⟩
    case reference name' => exact absurd he' (not_endsBefore_leftParen h.2)
    case bareCall name' free' | call name' free' operands' =>
      simp [← h.1] at free'
  | _, .negation operand, d', rest, rest', h, he, he' => by
    cases d' <;> simp only [Derivation.tokens, List.cons_append, List.nil_append, List.append_assoc,
      List.cons.injEq, Token.name.injEq, Form.name_inj, reduceCtorEq, true_and, false_and] at h
    case negation operand' =>
      obtain ⟨rfl, hrest⟩ := operand.eq_of_tokens_append operand' h (endsBefore_rightParen _)
        (endsBefore_rightParen _)
      exact ⟨rfl, (List.cons.inj hrest).2⟩
    case reference name' => exact absurd he' (not_endsBefore_leftParen h.2)
    case bareCall name' free' | call name' free' operands' =>
      simp [← h.1] at free'
  | _, .junction kind operands, d', rest, rest', h, he, he' => by
    cases d' <;> simp only [Derivation.tokens, List.cons_append, List.nil_append, List.append_assoc,
      List.cons.injEq, Token.name.injEq, Form.name_inj, Form.junction.injEq, reduceCtorEq, true_and,
      false_and] at h
    case junction kind' operands' =>
      obtain ⟨rfl, hos⟩ := h
      obtain ⟨rfl, rfl⟩ := operands.eq_of_tokens_append operands' hos
      exact ⟨rfl, rfl⟩
    case reference name' => exact absurd he' (not_endsBefore_leftParen h.2)
    case bareCall name' free' | call name' free' operands' =>
      simp [← h.1] at free'
  | _, .bareCall name free, d', rest, rest', h, he, he' => by
    cases d' <;> simp only [Derivation.tokens, List.cons_append, List.nil_append, List.append_assoc,
      List.cons.injEq, Token.name.injEq, reduceCtorEq, true_and, false_and] at h
    case reference name' => exact absurd he' (not_endsBefore_leftParen h.2)
    case bareCall name' free' =>
      obtain ⟨rfl, rfl⟩ := h
      exact ⟨rfl, rfl⟩
    -- the parenthesis that is closed at once begins no operands
    case call name' free' operands' =>
      obtain ⟨t, ts, hts, ht⟩ := operands'.exists_tokens_eq_cons
      rw [hts] at h
      exact absurd (List.cons.inj h.2).1.symm ht
    all_goals simp [h.1] at free
  | _, .call name free operands, d', rest, rest', h, he, he' => by
    cases d' <;> simp only [Derivation.tokens, List.cons_append, List.nil_append, List.append_assoc,
      List.cons.injEq, Token.name.injEq, reduceCtorEq, true_and, false_and] at h
    case reference name' => exact absurd he' (not_endsBefore_leftParen h.2)
    case bareCall name' free' =>
      obtain ⟨t, ts, hts, ht⟩ := operands.exists_tokens_eq_cons
      rw [hts] at h
      exact absurd (List.cons.inj h.2).1 ht
    case call name' free' operands' =>
      obtain ⟨rfl, hos⟩ := h
      obtain ⟨rfl, rfl⟩ := operands.eq_of_tokens_append operands' hos
      exact ⟨rfl, rfl⟩
    all_goals simp [h.1] at free

theorem Operands.eq_of_tokens_append : (os os' : Operands) → {rest rest' : List Token} →
    os.tokens ++ rest = os'.tokens ++ rest' → os = os' ∧ rest = rest'
  | .last operand, os', rest, rest', h => by
    cases os' <;> simp only [Operands.tokens, List.append_assoc, List.cons_append,
      List.nil_append] at h
    case last operand' =>
      obtain ⟨rfl, hrest⟩ := operand.eq_of_tokens_append operand' h (endsBefore_rightParen _)
        (endsBefore_rightParen _)
      exact ⟨rfl, (List.cons.inj hrest).2⟩
    case more operand' others' =>
      obtain ⟨-, hrest⟩ := operand.eq_of_tokens_append operand' h (endsBefore_rightParen _)
        (endsBefore_semicolon _)
      exact absurd (List.cons.inj hrest).1 (by decide)
  | .more operand others, os', rest, rest', h => by
    cases os' <;> simp only [Operands.tokens, List.append_assoc, List.cons_append,
      List.nil_append] at h
    case last operand' =>
      obtain ⟨-, hrest⟩ := operand.eq_of_tokens_append operand' h (endsBefore_semicolon _)
        (endsBefore_rightParen _)
      exact absurd (List.cons.inj hrest).1 (by decide)
    case more operand' others' =>
      obtain ⟨rfl, hrest⟩ := operand.eq_of_tokens_append operand' h (endsBefore_semicolon _)
        (endsBefore_semicolon _)
      obtain ⟨rfl, rfl⟩ := others.eq_of_tokens_append others' (List.cons.inj hrest).2
      exact ⟨rfl, rfl⟩

end

/-- No list of tokens has two derivations from a rule. -/
theorem Derivation.tokens_injective {r : Rule} {d d' : Derivation r} (h : d.tokens = d'.tokens) :
    d = d' := by
  have hends : r.EndsBefore none := by cases r <;> trivial
  exact (d.eq_of_tokens_append d' (congrArg (· ++ []) h) hends hends).1

end SheetFormula
