import Mathlib.Tactic.SplitIfs
import SheetFormula.Parser.Rules

/-!
# Derivations

The grammar of formulas as data, apart from the parser that reads by it. A derivation from a rule
is one way to read a list of tokens by that rule, with a constructor for each production. It
determines the tokens that it reads (`Derivation.tokens`), the formula that they stand for
(`Derivation.formula`), and how deep the rules nest in it (`Derivation.levels`).

The rules of a list of operands, which all calls and junctions share, have a type of their own:
`Operands` is one or more expressions between an opening parenthesis and a closing one, of which
the closing one is counted to it.

The nesting is bounded by the tokens: a token leads at most four rules deeper
(`Derivation.levels_add_place_le`).
-/

namespace SheetFormula

/-! ### Derivations -/

/-- The level that the **grammar** gives to the operator written with a symbol. -/
def Symbol.level? : Symbol → Option Level
  | .equal | .notEqual | .greater | .greaterEqual | .less | .lessEqual => some .relational
  | .plus | .minus | .ampersand => some .additive
  | .star | .slash | .caret | .percent => some .multiplicative
  | .semicolon | .leftParen | .rightParen => none

/-- The levels of the grammar are those at which the parser reads operators. -/
theorem Operator.level?_symbol (op : Operator) : op.symbol.level? = some op.level := by
  rcases op with op | _ | op | op
  case concat => rfl
  all_goals cases op <;> rfl

theorem Operator.level?_symbol_iff {op : Operator} {l : Level} :
    op.symbol.level? = some l ↔ op.level = l := by
  rw [level?_symbol, Option.some_inj]

mutual

/-- A **derivation** from a rule of the grammar. -/
inductive Derivation : Rule → Type where
  /-- `program := expression END` -/
  | program (body : Derivation .expression) : Derivation .program
  /-- An operand alone, for instance `additive := multiplicative`. -/
  | operand {l : Level} (left : Derivation l.tighter) : Derivation (.level l)
  /-- An operator of the level, for instance `additive := multiplicative "+" additive`. -/
  | binary {l : Level} (op : Operator) (level_eq : op.symbol.level? = some l)
      (left : Derivation l.tighter) (right : Derivation (.level l)) : Derivation (.level l)
  /-- `term := "(" expression ")"` -/
  | group (inner : Derivation .expression) : Derivation .term
  /-- `term := "-" NUMBER` -/
  | negative (x : Binary64) : Derivation .term
  /-- `term := NUMBER` -/
  | number (x : Binary64) : Derivation .term
  /-- `term := TEXT` -/
  | text (s : String) : Derivation .term
  /-- `term := NAME` -/
  | reference (name : String) : Derivation .term
  /-- `term := "IF" "(" expression ";" expression ";" expression ")"` -/
  | conditional (condition onTrue onFalse : Derivation .expression) : Derivation .term
  /-- `term := "TRUE" "(" ")"` and `term := "FALSE" "(" ")"` -/
  | constant (b : Bool) : Derivation .term
  /-- `term := "NOT" "(" expression ")"` -/
  | negation (operand : Derivation .expression) : Derivation .term
  /-- `term := "AND" "(" operands` and `term := "OR" "(" operands` -/
  | junction (kind : Junction) (operands : Operands) : Derivation .term
  /-- `term := NAME "(" ")"` for a name that is not reserved. -/
  | bareCall (name : String) (free : Form.ofName? name = none) : Derivation .term
  /-- `term := NAME "(" operands` for a name that is not reserved. -/
  | call (name : String) (free : Form.ofName? name = none) (operands : Operands) :
      Derivation .term

/-- A derivation of a list of **operands**, up to its closing parenthesis. -/
inductive Operands : Type where
  /-- `operands := expression ")"` -/
  | last (operand : Derivation .expression) : Operands
  /-- `operands := expression ";" operands` -/
  | more (operand : Derivation .expression) (others : Operands) : Operands

end

namespace Form

/-- The name of a reserved form. -/
def name : Form → String
  | conditional => "IF"
  | constant b => if b then "TRUE" else "FALSE"
  | negation => "NOT"
  | junction kind => kind.name

@[simp]
theorem ofName?_name (f : Form) : ofName? f.name = some f := by
  rcases f with _ | b | _ | kind
  · decide
  · cases b <;> decide
  · decide
  · cases kind <;> decide

@[simp]
theorem name_inj {f f' : Form} : f.name = f'.name ↔ f = f' := by
  refine ⟨fun h => ?_, fun h => congrArg name h⟩
  rw [← Option.some.injEq, ← ofName?_name f, ← ofName?_name f', h]

theorem name_of_ofName? {name : String} {reserved : Form}
    (h : ofName? name = some reserved) : name = reserved.name := by
  unfold ofName? at h
  split_ifs at h <;> cases h <;> assumption

end Form

/-! ### What a derivation reads and yields -/

mutual

/-- The tokens that a derivation reads. -/
def Derivation.tokens : {r : Rule} → Derivation r → List Token
  | _, .program body => body.tokens
  | _, .operand left => left.tokens
  | _, .binary op _ left right => left.tokens ++ .symbol op.symbol :: right.tokens
  | _, .group inner => .symbol .leftParen :: (inner.tokens ++ [.symbol .rightParen])
  | _, .negative x => [.symbol .minus, .number x]
  | _, .number x => [.number x]
  | _, .text s => [.text s]
  | _, .reference name => [.name name]
  | _, .conditional condition onTrue onFalse =>
    .name Form.conditional.name :: .symbol .leftParen :: (condition.tokens ++ .symbol .semicolon ::
      (onTrue.tokens ++ .symbol .semicolon :: (onFalse.tokens ++ [.symbol .rightParen])))
  | _, .constant b =>
    [.name (Form.constant b).name, .symbol .leftParen, .symbol .rightParen]
  | _, .negation operand =>
    .name Form.negation.name :: .symbol .leftParen :: (operand.tokens ++ [.symbol .rightParen])
  | _, .junction kind operands =>
    .name (Form.junction kind).name :: .symbol .leftParen :: operands.tokens
  | _, .bareCall name _ => [.name name, .symbol .leftParen, .symbol .rightParen]
  | _, .call name _ operands => .name name :: .symbol .leftParen :: operands.tokens

/-- The tokens that a list of operands reads, its closing parenthesis included. -/
def Operands.tokens : Operands → List Token
  | .last operand => operand.tokens ++ [.symbol .rightParen]
  | .more operand others => operand.tokens ++ .symbol .semicolon :: others.tokens

end

mutual

/-- The formula that a derivation yields. -/
def Derivation.formula : {r : Rule} → Derivation r → Formula
  | _, .program body => body.formula
  | _, .operand left => left.formula
  | _, .binary op _ left right => .binary op left.formula right.formula
  | _, .group inner => inner.formula
  | _, .negative x => .literal (.number x.neg)
  | _, .number x => .literal (.number x)
  | _, .text s => .literal (.text s)
  | _, .reference name => .reference name
  | _, .conditional condition onTrue onFalse =>
    .conditional condition.formula onTrue.formula onFalse.formula
  | _, .constant b => .literal (.boolean b)
  | _, .negation operand => .negation operand.formula
  | _, .junction kind operands => .junction kind operands.formulas
  | _, .bareCall name _ => .call name []
  | _, .call name _ operands => .call name operands.formulas

/-- The formulas that a list of operands yields. -/
def Operands.formulas : Operands → List Formula
  | .last operand => [operand.formula]
  | .more operand others => operand.formula :: others.formulas

end

mutual

/-- How many rules are nested in a derivation at its deepest place, its own rule included. -/
def Derivation.levels : {r : Rule} → Derivation r → Nat
  | _, .program body => body.levels + 1
  | _, .operand left => left.levels + 1
  | _, .binary _ _ left right => max left.levels right.levels + 1
  | _, .group inner => inner.levels + 1
  | _, .negative _ | _, .number _ | _, .text _ | _, .reference _ | _, .constant _ => 1
  | _, .conditional condition onTrue onFalse =>
    max condition.levels (max onTrue.levels onFalse.levels) + 1
  | _, .negation operand => operand.levels + 1
  | _, .junction _ operands => operands.levels + 1
  | _, .bareCall _ _ => 1
  | _, .call _ _ operands => operands.levels + 1

/-- How many rules are nested in a list of operands at its deepest place. -/
def Operands.levels : Operands → Nat
  | .last operand => operand.levels
  | .more operand others => max operand.levels others.levels

end

/-- Whether tokens are a **program** of the grammar. -/
def IsProgram (ts : List Token) : Prop := ∃ d : Derivation .program, d.tokens = ts

/-! ### The first token -/

/-- No derivation begins with a closing parenthesis, and none is empty. -/
theorem Derivation.exists_tokens_eq_cons : {r : Rule} → (d : Derivation r) →
    ∃ t ts, d.tokens = t :: ts ∧ t ≠ .symbol .rightParen
  | _, .program body => body.exists_tokens_eq_cons
  | _, .operand left => left.exists_tokens_eq_cons
  | _, .binary _ _ left _ => by
    obtain ⟨t, ts, hts, ht⟩ := left.exists_tokens_eq_cons
    exact ⟨t, _, by rw [Derivation.tokens, hts, List.cons_append], ht⟩
  | _, .group _ | _, .negative _ | _, .number _ | _, .text _ | _, .reference _
  | _, .conditional _ _ _ | _, .constant _ | _, .negation _ | _, .junction _ _
  | _, .bareCall _ _ | _, .call _ _ _ => ⟨_, _, rfl, by simp⟩

theorem Operands.exists_tokens_eq_cons (os : Operands) :
    ∃ t ts, os.tokens = t :: ts ∧ t ≠ .symbol .rightParen := by
  cases os with
  | last operand =>
    obtain ⟨t, ts, hts, ht⟩ := operand.exists_tokens_eq_cons
    exact ⟨t, _, by rw [Operands.tokens, hts, List.cons_append], ht⟩
  | more operand others =>
    obtain ⟨t, ts, hts, ht⟩ := operand.exists_tokens_eq_cons
    exact ⟨t, _, by rw [Operands.tokens, hts, List.cons_append], ht⟩

/-! ### Nesting and length -/

/-- How many rules stand above a rule on the way from a program to a term. -/
def Rule.place : Rule → Nat
  | program => 0
  | level l => l.rank + 1
  | term => 4

theorem Level.rank_inj {l l' : Level} : l.rank = l'.rank ↔ l = l' := by
  cases l <;> cases l' <;> decide

theorem Level.place_tighter (l : Level) : l.tighter.place = l.rank + 2 := by
  cases l <;> rfl

theorem Level.rank_lt (l : Level) : l.rank < 3 := by
  cases l <;> decide

/-- Terms stand behind all other rules. -/
theorem Rule.place_le (r : Rule) : r.place ≤ term.place := by
  cases r with
  | level l => exact Nat.le_succ_of_le (Nat.succ_le_succ (Nat.le_of_lt_succ l.rank_lt))
  | program | term => decide

/-- A rule is known by its place. -/
theorem Rule.place_inj {r r' : Rule} : r.place = r'.place ↔ r = r' := by
  refine ⟨fun h => ?_, congrArg place⟩
  cases r with
  | program => cases r' <;> cases h; rfl
  | level l =>
    have hrank := l.rank_lt
    cases r' with
    | program => cases h
    | level l' => rw [Level.rank_inj.mp (Nat.succ.inj h)]
    | term => exact absurd (Nat.succ.inj h) (Nat.ne_of_lt hrank)
  | term =>
    cases r' with
    | program => cases h
    | level l => exact absurd (Nat.succ.inj h).symm (Nat.ne_of_lt l.rank_lt)
    | term => rfl

mutual

/-- The rules nest at most four deep for every token that is read. -/
theorem Derivation.levels_add_place_le :
    {r : Rule} → (d : Derivation r) → d.levels + r.place ≤ 4 * d.tokens.length + 1
  | _, .program body => by
    have hb : body.levels + 1 ≤ 4 * body.tokens.length + 1 := body.levels_add_place_le
    simp only [Derivation.levels, Derivation.tokens, Rule.place]
    omega
  | _, .operand left => by
    have hl := left.levels_add_place_le
    rw [Level.place_tighter] at hl
    simp only [Derivation.levels, Derivation.tokens, Rule.place]
    omega
  | _, .binary op _ left right => by
    have hl := left.levels_add_place_le
    have hr := right.levels_add_place_le
    rw [Level.place_tighter] at hl
    simp only [Rule.place] at hr
    simp only [Derivation.levels, Derivation.tokens, Rule.place, List.length_append,
      List.length_cons]
    omega
  | _, .group inner => by
    have hi : inner.levels + 1 ≤ 4 * inner.tokens.length + 1 := inner.levels_add_place_le
    simp only [Derivation.levels, Derivation.tokens, Rule.place, List.length_append,
      List.length_cons, List.length_nil]
    omega
  | _, .negative _ | _, .number _ | _, .text _ | _, .reference _ | _, .constant _
  | _, .bareCall _ _ => by
    simp [Derivation.levels, Derivation.tokens, Rule.place]
  | _, .conditional condition onTrue onFalse => by
    have hc : condition.levels + 1 ≤ 4 * condition.tokens.length + 1 :=
      condition.levels_add_place_le
    have ht : onTrue.levels + 1 ≤ 4 * onTrue.tokens.length + 1 := onTrue.levels_add_place_le
    have hf : onFalse.levels + 1 ≤ 4 * onFalse.tokens.length + 1 := onFalse.levels_add_place_le
    simp only [Derivation.levels, Derivation.tokens, Rule.place, List.length_append,
      List.length_cons, List.length_nil]
    omega
  | _, .negation operand => by
    have ho : operand.levels + 1 ≤ 4 * operand.tokens.length + 1 := operand.levels_add_place_le
    simp only [Derivation.levels, Derivation.tokens, Rule.place, List.length_append,
      List.length_cons, List.length_nil]
    omega
  | _, .junction _ operands | _, .call _ _ operands => by
    have ho := operands.levels_le
    simp only [Derivation.levels, Derivation.tokens, Rule.place, List.length_cons]
    omega

theorem Operands.levels_le : (os : Operands) → os.levels ≤ 4 * os.tokens.length
  | .last operand => by
    have ho : operand.levels + 1 ≤ 4 * operand.tokens.length + 1 := operand.levels_add_place_le
    simp only [Operands.levels, Operands.tokens, List.length_append]
    omega
  | .more operand others => by
    have ho : operand.levels + 1 ≤ 4 * operand.tokens.length + 1 := operand.levels_add_place_le
    have hs := others.levels_le
    simp only [Operands.levels, Operands.tokens, List.length_append, List.length_cons]
    omega

end

end SheetFormula
