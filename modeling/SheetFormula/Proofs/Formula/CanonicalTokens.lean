import SheetFormula.Proofs.Formula.Canonical
import SheetFormula.Proofs.Grammar.Unambiguous
import SheetFormula.Proofs.Token.Grouping

/-!
# The canonical tokens of a formula

The tokens that the canonical text of a formula spells (`Formula.Spellable.spells`). Every
derivation of the formula from tokens that can be spelled ungroups to them (`Derivation.ungroups`):
the parentheses that its rules spend and the canonical text does not can be dropped pair by pair. A
derivation from a rule that is tighter than the formula must spend a pair, which is then kept.
-/

namespace SheetFormula

/-! ### Tokens put together -/

/-- The tokens between parentheses, if they are asked for. -/
def Token.grouped (parens : Bool) (ts : List Token) : List Token :=
  if parens then .symbol .leftParen :: (ts ++ [.symbol .rightParen]) else ts

/-- Lists of tokens with semicolons between them. -/
def Token.listed : List (List Token) → List Token
  | [] => []
  | [ts] => ts
  | ts :: more => ts ++ .symbol .semicolon :: listed more

theorem Token.listed_cons {ts : List Token} {more : List (List Token)} (h : more ≠ []) :
    listed (ts :: more) = ts ++ .symbol .semicolon :: listed more := by
  cases more with
  | nil => exact absurd rfl h
  | cons us more => rfl

/-- A name with lists of tokens in parentheses after it. -/
def Token.applied (name : String) (tss : List (List Token)) : List Token :=
  .name name :: .symbol .leftParen :: (listed tss ++ [.symbol .rightParen])

/-- The tokens of a value. -/
def Value.tokens : Value → List Token
  | .text s => [.text s]
  | .number x => x.tokens
  | .boolean b => Token.applied (Form.constant b).name []

namespace Formula

mutual

/-- The **canonical tokens** of a formula, read from the rule to which it belongs. -/
def tokens : Formula → List Token
  | .literal v => v.tokens
  | .reference name => [.name name]
  | .call name arguments => Token.applied name (tokenLists arguments)
  | .negation operand => Token.applied Form.negation.name [tokens operand]
  | .binary op left right =>
    Token.grouped (left.tightness ≤ op.level.rank) (tokens left) ++ .symbol op.symbol ::
      Token.grouped (right.tightness < op.level.rank) (tokens right)
  | .junction kind operands => Token.applied (Form.junction kind).name (tokenLists operands)
  | .conditional condition onTrue onFalse =>
    Token.applied Form.conditional.name [tokens condition, tokens onTrue, tokens onFalse]

/-- The canonical tokens of formulas. -/
def tokenLists : List Formula → List (List Token)
  | [] => []
  | f :: fs => tokens f :: tokenLists fs

end

/-- The canonical tokens of a formula that is read from a rule. -/
def tokensAt (f : Formula) (r : Rule) : List Token :=
  Token.grouped (f.tightness + 1 < r.place) f.tokens

end Formula

/-! ### They are spelled -/

section Spells

variable {cs : List Char} {ts : List Token} {texts : List (List Char)} {tss : List (List Token)}

theorem Spells.grouped (parens : Bool) (h : Spells cs ts) :
    Spells (Formula.grouped parens cs) (Token.grouped parens ts) := by
  cases parens with
  | false => exact h
  | true => exact h.closed.opened

theorem Spells.listed (h : List.Forall₂ Spells texts tss) :
    Spells (Formula.listed texts) (Token.listed tss) := by
  induction h with
  | nil => exact .nil
  | cons first more ih =>
    cases more with
    | nil => exact first
    | cons second more => exact first.separated ih

theorem Spells.applied_listed {name : String} (hname : IsIdentifier name)
    (h : List.Forall₂ Spells texts tss) :
    Spells (Formula.applied name texts) (Token.applied name tss) :=
  .applied hname (Spells.listed h).closed

theorem Value.Spellable.spells {v : Value} (h : v.Spellable) :
    Spells (Formula.valueText v) v.tokens := by
  cases v with
  | text s => exact .token (t := .text s) trivial
  | boolean b =>
    have hspells := Spells.applied_listed (Form.constant b).isIdentifier_name .nil
    cases b <;> exact hspells
  | number x =>
    cases x with
    | finite negative units hunits => exact Formula.spells_finite negative hunits
    | nan | infinite _ => cases h

mutual

/-- **The canonical text spells the canonical tokens.** -/
theorem Formula.Spellable.spells : (f : Formula) → f.Spellable → Spells f.text f.tokens
  | .literal _, h => Value.Spellable.spells h
  | .reference name, h => .token (t := .name name) h
  | .call _ arguments, h => .applied_listed h.1 (AllSpellable.spells arguments h.2.2)
  | .negation operand, h =>
    .applied_listed Form.negation.isIdentifier_name (.cons (Spellable.spells operand h) .nil)
  | .binary op left right, h => by
    rw [text_binary]
    exact ((Spellable.spells left h.1).grouped _).operator op
      ((Spellable.spells right h.2).grouped _)
  | .junction kind operands, h =>
    .applied_listed (Form.junction kind).isIdentifier_name (AllSpellable.spells operands h.2)
  | .conditional condition onTrue onFalse, h =>
    .applied_listed Form.conditional.isIdentifier_name
      (.cons (Spellable.spells condition h.1) (.cons (Spellable.spells onTrue h.2.1)
        (.cons (Spellable.spells onFalse h.2.2) .nil)))

theorem Formula.AllSpellable.spells : (fs : List Formula) → AllSpellable fs →
    List.Forall₂ Spells (Formula.texts fs) (tokenLists fs)
  | [], _ => .nil
  | f :: fs, h => .cons (Spellable.spells f h.1) (AllSpellable.spells fs h.2)

end

end Spells

/-! ### They are balanced -/

section Balanced

variable {ts : List Token} {tss : List (List Token)}

theorem Balanced.grouped (parens : Bool) (h : Balanced ts) :
    Balanced (Token.grouped parens ts) := by
  cases parens with
  | false => exact h
  | true => exact h.enclosed

theorem Balanced.joined {us : List Token} {s : Symbol} (h : Balanced ts) (h' : Balanced us)
    (hs : s ≠ .leftParen ∧ s ≠ .rightParen) : Balanced (ts ++ .symbol s :: us) :=
  h.append (.token (by simpa using hs.1) (by simpa using hs.2) h')

theorem Balanced.listed (h : ∀ ts ∈ tss, Balanced ts) : Balanced (Token.listed tss) := by
  induction tss with
  | nil => exact .nil
  | cons ts more ih =>
    obtain ⟨hts, hmore⟩ := List.forall_mem_cons.mp h
    cases more with
    | nil => exact hts
    | cons us more => exact hts.joined (ih hmore) (by decide)

theorem Balanced.applied (name : String) (h : ∀ ts ∈ tss, Balanced ts) :
    Balanced (Token.applied name tss) :=
  .token (by simp) (by simp) (Balanced.listed h).enclosed

theorem Value.balanced_tokens (v : Value) : Balanced v.tokens := by
  rcases v with s | (_ | _ | ⟨_ | _, units, hunits⟩) | b
  case boolean => exact .applied _ (List.forall_mem_nil _)
  case number.finite.true => exact .token (by simp) (by simp) (.singleton (by simp) (by simp))
  all_goals exact .singleton (by simp) (by simp)

mutual

theorem Formula.balanced_tokens : (f : Formula) → Balanced f.tokens
  | .literal v => v.balanced_tokens
  | .reference _ => .singleton (by simp) (by simp)
  | .call name arguments => .applied name (balanced_tokenLists arguments)
  | .negation operand => .applied _ (List.forall_mem_singleton.mpr (balanced_tokens operand))
  | .binary op left right =>
    ((balanced_tokens left).grouped _).joined ((balanced_tokens right).grouped _)
      op.symbol_ne_paren
  | .junction _ operands => .applied _ (balanced_tokenLists operands)
  | .conditional condition onTrue onFalse =>
    .applied _ (List.forall_mem_cons.mpr ⟨balanced_tokens condition,
      List.forall_mem_cons.mpr ⟨balanced_tokens onTrue,
        List.forall_mem_singleton.mpr (balanced_tokens onFalse)⟩⟩)

theorem Formula.balanced_tokenLists :
    (fs : List Formula) → ∀ ts ∈ tokenLists fs, Balanced ts
  | [] => List.forall_mem_nil _
  | f :: fs => List.forall_mem_cons.mpr ⟨balanced_tokens f, balanced_tokenLists fs⟩

end

end Balanced

/-! ### Every derivation ungroups to them -/

namespace Formula

variable {f : Formula} {r r' : Rule}

/-- A rule that is no tighter than the formula needs no parentheses. -/
theorem tokensAt_of_le (h : r.place ≤ f.tightness + 1) : f.tokensAt r = f.tokens := by
  rw [tokensAt, decide_eq_false (Nat.not_lt_of_le h)]
  rfl

theorem tokensAt_expression (f : Formula) : f.tokensAt .expression = f.tokens :=
  tokensAt_of_le (Nat.le_add_left 1 _)

theorem tokensAt_term (h : f.tightness = 3) : f.tokensAt .term = f.tokens :=
  tokensAt_of_le (by rw [h]; exact Nat.le_refl 4)

theorem tokensAt_tighter (f : Formula) (l : Level) :
    f.tokensAt l.tighter = Token.grouped (f.tightness ≤ l.rank) f.tokens := by
  have hparens : f.tightness + 1 < l.tighter.place ↔ f.tightness ≤ l.rank := by
    rw [Level.place_tighter]
    omega
  rw [tokensAt, decide_eq_decide.mpr hparens]

theorem tokensAt_level (f : Formula) (l : Level) :
    f.tokensAt (.level l) = Token.grouped (f.tightness < l.rank) f.tokens := by
  have hparens : f.tightness + 1 < (Rule.level l).place ↔ f.tightness < l.rank :=
    Nat.add_lt_add_iff_right
  rw [tokensAt, decide_eq_decide.mpr hparens]

/-- The parentheses around a formula may be dropped where they are not needed. -/
theorem ungroups_grouped (f : Formula) (parens : Bool) :
    Ungroups (Token.grouped true f.tokens) (Token.grouped parens f.tokens) := by
  cases parens with
  | false => exact .drop f.balanced_tokens
  | true => exact .refl _

/-- A looser rule needs no parentheses that a tighter one does not need. -/
theorem ungroups_tokensAt (h : r.place ≤ r'.place) : Ungroups (f.tokensAt r') (f.tokensAt r) := by
  by_cases htight : f.tightness + 1 < r'.place
  · rw [tokensAt, decide_eq_true htight]
    exact f.ungroups_grouped _
  · rw [tokensAt_of_le (Nat.le_of_not_lt htight),
      tokensAt_of_le (Nat.le_trans h (Nat.le_of_not_lt htight))]
    exact .refl _

end Formula

open Formula

mutual

/-- **A derivation spends the canonical tokens and pairs of grouping parentheses**, and nothing
else: these can be dropped one after the other until the canonical tokens are left. -/
theorem Derivation.ungroups : {r : Rule} → (d : Derivation r) → (∀ t ∈ d.tokens, t.Spellable) →
    Ungroups d.tokens (d.formula.tokensAt r)
  | _, .program body, h => (body.ungroups h).trans (ungroups_tokensAt (by decide))
  | .level l, .operand left, h => by
    refine (left.ungroups h).trans (ungroups_tokensAt ?_)
    rw [Level.place_tighter]
    exact Nat.le_succ _
  | .level l, .binary op hsymbol left right, h => by
    have hl := Operator.level?_symbol_iff.mp hsymbol
    obtain ⟨hleft, -, hright⟩ := by
      simpa only [Derivation.tokens, List.forall_mem_append, List.forall_mem_cons] using h
    have hleft := left.ungroups hleft
    have hright := right.ungroups hright
    rw [tokensAt_tighter] at hleft
    rw [tokensAt_level] at hright
    have hplace : (Rule.level l).place =
        (Formula.binary op left.formula right.formula).tightness + 1 := by
      rw [Formula.tightness_binary, hl, Rule.place]
    rw [Derivation.formula, tokensAt_of_le (Nat.le_of_eq hplace), Formula.tokens, hl]
    exact hleft.joined _ hright
  | _, .group inner, h => by
    obtain ⟨-, hinner, -⟩ := by
      simpa only [Derivation.tokens, List.forall_mem_append, List.forall_mem_cons] using h
    have hi := inner.ungroups hinner
    rw [tokensAt_expression] at hi
    have henclosed := (hi.joined .rightParen (.refl [])).enclosed []
    exact henclosed.trans (ungroups_grouped _ _)
  | _, .negative x, h => by
    have hx : (Token.number x).Spellable := h _ (by simp [Derivation.tokens])
    obtain ⟨units, hunits, rfl⟩ := Binary64.exists_eq_finite hx.1 hx.2
    exact .refl _
  | _, .number x, h => by
    have hx : (Token.number x).Spellable := h _ (List.mem_singleton_self _)
    obtain ⟨units, hunits, rfl⟩ := Binary64.exists_eq_finite hx.1 hx.2
    exact .refl _
  | _, .text _, _ | _, .reference _, _ | _, .constant _, _ | _, .bareCall _ _, _ => .refl _
  | _, .conditional condition onTrue onFalse, h => by
    obtain ⟨-, -, hcondition, -, htrue, -, hfalse, -⟩ := by
      simpa only [Derivation.tokens, List.forall_mem_append, List.forall_mem_cons] using h
    have hc := condition.ungroups hcondition
    have ht := onTrue.ungroups htrue
    have hf := onFalse.ungroups hfalse
    rw [tokensAt_expression] at hc ht hf
    have hlist := hc.joined .semicolon (ht.joined .semicolon (hf.joined .rightParen (.refl [])))
    rw [tokensAt_term rfl]
    simpa [Derivation.tokens, Derivation.formula, Formula.tokens, Token.applied, Token.listed] using
      hlist.enclosed [.name Form.conditional.name]
  | _, .negation operand, h => by
    obtain ⟨-, -, hoperand, -⟩ := by
      simpa only [Derivation.tokens, List.forall_mem_append, List.forall_mem_cons] using h
    have ho := operand.ungroups hoperand
    rw [tokensAt_expression] at ho
    exact (ho.joined .rightParen (.refl [])).enclosed [.name Form.negation.name]
  | _, .junction kind operands, h => by
    obtain ⟨-, -, hoperands⟩ := by
      simpa only [Derivation.tokens, List.forall_mem_cons] using h
    exact (operands.ungroups hoperands).enclosed [.name (Form.junction kind).name]
  | _, .call name free operands, h => by
    obtain ⟨-, -, hoperands⟩ := by
      simpa only [Derivation.tokens, List.forall_mem_cons] using h
    exact (operands.ungroups hoperands).enclosed [.name name]

theorem Operands.ungroups : (os : Operands) → (∀ t ∈ os.tokens, t.Spellable) →
    Ungroups os.tokens (Token.listed (tokenLists os.formulas) ++ [.symbol .rightParen])
  | .last operand, h => by
    have ho := operand.ungroups (List.forall_mem_append.mp h).1
    rw [tokensAt_expression] at ho
    exact ho.joined .rightParen (.refl [])
  | .more operand others, h => by
    obtain ⟨hoperand, hothers⟩ := List.forall_mem_append.mp h
    have ho := operand.ungroups hoperand
    have hs := others.ungroups (List.forall_mem_cons.mp hothers).2
    rw [tokensAt_expression] at ho
    have hlists : tokenLists others.formulas ≠ [] := by
      cases others <;> exact List.cons_ne_nil _ _
    rw [Operands.formulas, tokenLists, Token.listed_cons hlists, List.append_assoc]
    exact ho.joined .semicolon hs

end

end SheetFormula
