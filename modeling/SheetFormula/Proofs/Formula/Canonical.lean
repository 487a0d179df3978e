import SheetFormula.Proofs.Formula.SpelledOut
import SheetFormula.Proofs.Grammar.Nesting

/-!
# The canonical text is a derivation

Formulas whose names and numbers can be spelled are the ones that are ever read
(`Derivation.spellable`). From each rule of the grammar a formula that can be written has a
derivation whose tokens its canonical text spells, with parentheses around it only if the rule is
tighter than the formula. The derivation yields the formula with its numbers spelled out, and it
nests as little as any unless there was something to spell out (`Formula.Writable.canonical`).
-/

namespace SheetFormula

/-! ### What is read can be spelled -/

theorem Binary64.isFinite_neg (x : Binary64) : x.neg.isFinite = x.isFinite := by
  cases x <;> rfl

theorem Operands.formulas_ne_nil (os : Operands) : os.formulas ≠ [] := by
  cases os <;> exact List.cons_ne_nil _ _

mutual

/-- **What is read from tokens that can be spelled can be spelled.** -/
theorem Derivation.spellable :
    {r : Rule} → (d : Derivation r) → (∀ t ∈ d.tokens, t.Spellable) → d.formula.Spellable
  | _, .program body, h | _, .operand body, h => body.spellable h
  | _, .binary _ _ left right, h => by
    obtain ⟨hleft, -, hright⟩ := by
      simpa only [Derivation.tokens, List.forall_mem_append, List.forall_mem_cons] using h
    exact ⟨left.spellable hleft, right.spellable hright⟩
  | _, .group inner, h => by
    obtain ⟨-, hinner, -⟩ := by
      simpa only [Derivation.tokens, List.forall_mem_append, List.forall_mem_cons] using h
    exact inner.spellable hinner
  | _, .negative x, h => by
    have hx : (Token.number x).Spellable := h _ (by simp [Derivation.tokens])
    exact (Binary64.isFinite_neg x).trans hx.1
  | _, .number x, h => (h _ (List.mem_singleton_self _)).1
  | _, .text _, _ | _, .constant _, _ => trivial
  | _, .reference name, h => h _ (List.mem_singleton_self _)
  | _, .conditional condition onTrue onFalse, h => by
    obtain ⟨-, -, hcondition, -, htrue, -, hfalse, -⟩ := by
      simpa only [Derivation.tokens, List.forall_mem_append, List.forall_mem_cons] using h
    exact ⟨condition.spellable hcondition, onTrue.spellable htrue, onFalse.spellable hfalse⟩
  | _, .negation operand, h => by
    obtain ⟨-, -, hoperand, -⟩ := by
      simpa only [Derivation.tokens, List.forall_mem_append, List.forall_mem_cons] using h
    exact operand.spellable hoperand
  | _, .junction _ operands, h => by
    obtain ⟨-, -, hoperands⟩ := by
      simpa only [Derivation.tokens, List.forall_mem_cons] using h
    exact ⟨operands.formulas_ne_nil, operands.allSpellable hoperands⟩
  | _, .bareCall name free, h => ⟨h _ (List.mem_cons_self ..), free, trivial⟩
  | _, .call name free operands, h => by
    obtain ⟨hname, -, hoperands⟩ := by
      simpa only [Derivation.tokens, List.forall_mem_cons] using h
    exact ⟨hname, free, operands.allSpellable hoperands⟩

theorem Operands.allSpellable : (os : Operands) → (∀ t ∈ os.tokens, t.Spellable) →
    Formula.AllSpellable os.formulas
  | .last operand, h =>
    ⟨operand.spellable (List.forall_mem_append.mp h).1, trivial⟩
  | .more operand others, h => by
    obtain ⟨hoperand, hothers⟩ := List.forall_mem_append.mp h
    exact ⟨operand.spellable hoperand, others.allSpellable (List.forall_mem_cons.mp hothers).2⟩

end

/-! ### From rule to rule -/

namespace Formula

/-- A formula is **derived** from a rule with a text when the text spells the tokens of a derivation
of the formula with its numbers spelled out, which nests no deeper than it must if the formula can
be spelled as it is. -/
def DerivedAt (f : Formula) (r : Rule) (cs : List Char) : Prop :=
  ∃ d : Derivation r, d.formula = f.spelledOut ∧ Spells cs d.tokens ∧
    (f.Spellable → d.levels = f.levelsAt r.place)

/-- The rule to which a formula belongs. -/
def rule : Formula → Rule
  | .binary op _ _ => .level op.level
  | _ => .term

variable {f : Formula} {cs : List Char}

theorem place_rule (f : Formula) : f.rule.place = f.tightness + 1 := by
  cases f with
  | binary op left right =>
    rw [tightness_binary]
    rfl
  | _ => rfl

/-- A formula that does not belong to a level is read there as an operand. -/
theorem DerivedAt.loosen {l : Level} (h : f.DerivedAt l.tighter cs) (hl : l.rank ≠ f.tightness) :
    f.DerivedAt (.level l) cs := by
  obtain ⟨d, hf, hspells, hlevels⟩ := h
  refine ⟨.operand d, hf, hspells, fun hspellable => ?_⟩
  have hrank : l.rank + 1 < 4 := by cases l <;> decide
  replace hlevels := hlevels hspellable
  rw [Level.place_tighter] at hlevels
  have hsucc : f.levelsAt (l.rank + 1) = f.levelsAt (l.rank + 1 + 1) + 1 :=
    levelsAt_eq_succ hrank fun h => hl (Nat.succ.inj h)
  rw [Derivation.levels, hlevels, Rule.place, hsucc]

/-- An operator between operands is read as a term when it is put in parentheses. -/
theorem DerivedAt.group (h : f.DerivedAt .expression cs) (ht : f.tightness < 3) :
    f.DerivedAt .term ('(' :: (cs ++ [')'])) := by
  obtain ⟨d, hf, hspells, hlevels⟩ := h
  refine ⟨.group d, hf, hspells.closed.opened, fun hspellable => ?_⟩
  have hterm := levelsAt_term_eq ht
  rw [Derivation.levels, hlevels hspellable]
  exact hterm.symm

/-- A formula is read from every rule on the way to one from which it is derived, unless it belongs
to a rule between them. -/
theorem DerivedAt.loosenTo {r r' : Rule} (h : f.DerivedAt r' cs) (hr : r ≠ .program)
    (hle : r.place ≤ r'.place)
    (hown : ∀ place, r.place ≤ place → place < r'.place → place ≠ f.tightness + 1) :
    f.DerivedAt r cs := by
  obtain ⟨n, hn⟩ := Nat.exists_eq_add_of_le hle
  -- `n` counts the rules from `r'` down to `r`
  induction n generalizing r with
  | zero => exact Rule.place_inj.mp hn ▸ h
  | succ n ih =>
    cases r with
    | program => exact absurd rfl hr
    | term =>
      have hplace := r'.place_le
      omega
    | level l =>
      have hplace := l.place_tighter
      have hl : (Rule.level l).place = l.rank + 1 := rfl
      have htighter : f.DerivedAt l.tighter cs := by
        have hprogram : l.tighter ≠ .program := by cases l <;> simp [Level.tighter]
        refine ih hprogram (by omega) (fun place hge hlt => ?_) (by omega)
        exact hown place (by omega) hlt
      exact htighter.loosen fun heq => hown (l.rank + 1) (Nat.le_refl _) (by omega) (by omega)

/-- **Parentheses where they are needed**: a formula that is derived from its own rule is derived
from every other one, in parentheses if that is a tighter one. -/
theorem DerivedAt.grouped (h : f.DerivedAt f.rule cs) {r : Rule} (hr : r ≠ .program) :
    f.DerivedAt r (Formula.grouped (f.tightness + 1 < r.place) cs) := by
  have hplace := f.place_rule
  by_cases htight : f.tightness + 1 < r.place
  · rw [Formula.grouped, if_pos (decide_eq_true htight)]
    have hfour : r.place ≤ 4 := r.place_le
    -- down to the expression in the parentheses, and from the term that they make down to `r`
    have hexpression : f.DerivedAt .expression cs :=
      h.loosenTo (by decide) (by rw [hplace]; exact Nat.succ_le_succ (Nat.zero_le _)) (by omega)
    have hterm := hexpression.group (by omega)
    exact hterm.loosenTo hr hfour (by omega)
  · rw [Formula.grouped, if_neg (by simpa using htight)]
    exact h.loosenTo hr (by omega) (by omega)

/-- Expressions need no parentheses. -/
theorem DerivedAt.ungrouped (h : f.DerivedAt f.rule cs) : f.DerivedAt .expression cs := by
  have hgrouped := h.grouped (r := .expression) (by decide)
  have hplace : ¬ f.tightness + 1 < Rule.expression.place := Nat.not_lt_of_le (Nat.le_add_left 1 _)
  rwa [Formula.grouped, if_neg (by simpa using hplace)] at hgrouped

end Formula

/-! ### The canonical derivation -/

/-- The reserved names are identifiers. -/
theorem Form.isIdentifier_name (form : Form) : IsIdentifier form.name := by
  rcases form with _ | (_ | _) | _ | (_ | _) <;> decide +kernel

/-- A name is put before texts in parentheses. -/
theorem Spells.applied {name : String} {texts : List (List Char)} {ts : List Token}
    (hname : IsIdentifier name) (h : Spells (Formula.listed texts ++ [')']) ts) :
    Spells (Formula.applied name texts) (.name name :: .symbol .leftParen :: ts) :=
  (Spells.token (t := .name name) hname).append h.opened (.inr (.inr (.inl rfl)))

/-- An operator is put between texts with a space on either side. -/
theorem Spells.operator {cs ds : List Char} {ts us : List Token} (h : Spells cs ts) (op : Operator)
    (h' : Spells ds us) :
    Spells (cs ++ ' ' :: (op.symbol.text.toList ++ ' ' :: ds)) (ts ++ .symbol op.symbol :: us) := by
  have hop : Spells (op.symbol.text.toList ++ ' ' :: ds) (.symbol op.symbol :: us) :=
    (Spells.token (t := .symbol op.symbol) trivial).append h'.space (.inl rfl)
  exact h.append hop.space (.inl rfl)

/-- The tokens of a finite number: its sign is a token of its own, also that of a negative zero. -/
def Binary64.tokens : Binary64 → List Token
  | .finite true units hunits => [.symbol .minus, .number (.finite false units hunits)]
  | x => [.number x]

namespace Formula

variable {f : Formula} {cs : List Char}

/-- The text of a finite number spells its tokens. -/
theorem spells_finite (negative : Bool) {units : Nat} (hunits : Representable units) :
    Spells (numberText (.finite negative units hunits))
      (Binary64.tokens (.finite negative units hunits)) := by
  have hspells := Spells.token (t := .number (.finite false units hunits)) ⟨rfl, rfl⟩
  rw [Token.spelling, Binary64.text_finite_false] at hspells
  cases negative with
  | false =>
    change Spells (Binary64.text (.finite false units hunits)) _
    rw [Binary64.text_finite_false]
    exact hspells
  | true =>
    change Spells (Binary64.text (.finite true units hunits)) _
    rw [Binary64.text_finite_true]
    exact hspells.symbol (s := .minus) (by decide) (by decide)

/-- A derivation of a term that nests as its formula does shows how this formula is derived. -/
theorem derivedAt_term (d : Derivation .term) (hf : d.formula = f.spelledOut)
    (hspells : Spells cs d.tokens) (ht : f.tightness = 3)
    (hlevels : f.Spellable → d.levels = f.levels) : f.DerivedAt .term cs :=
  ⟨d, hf, hspells, fun h => (hlevels h).trans (levelsAt_term ht).symm⟩

/-- An operator between operands that are derived where it needs them. -/
theorem derivedAt_binary {op : Operator} {left right : Formula} {cs ds : List Char}
    (hleft : left.DerivedAt op.level.tighter cs) (hright : right.DerivedAt (.level op.level) ds) :
    (binary op left right).DerivedAt (.level op.level)
      (cs ++ ' ' :: (op.symbol.text.toList ++ ' ' :: ds)) := by
  obtain ⟨d, hf, hd, hdlevels⟩ := hleft
  obtain ⟨d', hf', hd', hdlevels'⟩ := hright
  refine ⟨.binary op op.level?_symbol d d', congrArg₂ (binary op) hf hf', hd.operator op hd',
    fun hspellable => ?_⟩
  rw [Level.place_tighter] at hdlevels
  rw [Derivation.levels, hdlevels hspellable.1, hdlevels' hspellable.2]
  exact (levelsAt_binary op left right).symm

/-- An operator between operands, with the parentheses that they need. -/
theorem derivedAt_infix (op : Operator) {left right : Formula} {cs ds : List Char}
    (hleft : left.DerivedAt left.rule cs) (hright : right.DerivedAt right.rule ds) :
    (binary op left right).DerivedAt (.level op.level)
      (grouped (left.tightness ≤ op.level.rank) cs ++
        ' ' :: (op.symbol.text.toList ++
          ' ' :: grouped (right.tightness < op.level.rank) ds)) := by
  have hleft := hleft.grouped (r := op.level.tighter)
    (by cases op.level <;> simp [Level.tighter])
  have hright := hright.grouped (r := .level op.level) (by simp)
  -- the writer compares the tightness with the rank of the operator instead of places
  have hparens : decide (left.tightness + 1 < op.level.tighter.place) =
      decide (left.tightness ≤ op.level.rank) :=
    decide_eq_decide.mpr (by rw [Level.place_tighter]; omega)
  have hparens' : decide (right.tightness + 1 < (Rule.level op.level).place) =
      decide (right.tightness < op.level.rank) :=
    decide_eq_decide.mpr Nat.add_lt_add_iff_right
  rw [hparens] at hleft
  rw [hparens'] at hright
  exact derivedAt_binary hleft hright

/-- A finite number is a term. -/
theorem derivedAt_finite (negative : Bool) {units : Nat} (hunits : Representable units) :
    (literal (.number (.finite negative units hunits))).DerivedAt .term
      (numberText (.finite negative units hunits)) := by
  cases negative with
  | false =>
    exact derivedAt_term (.number (.finite false units hunits)) rfl (spells_finite false hunits) rfl
      fun _ => rfl
  | true =>
    exact derivedAt_term (.negative (.finite false units hunits)) rfl (spells_finite true hunits)
      rfl fun _ => rfl

theorem derivedAt_zero : (literal (.number (.zero false))).DerivedAt .term ['0'] :=
  derivedAt_finite false representable_zero

theorem derivedAt_ten : (literal (.number .ten)).DerivedAt .term ['1', '0'] := by
  have htext : numberText .ten = ['1', '0'] := by decide +kernel
  rw [← htext]
  exact derivedAt_finite false _

theorem derivedAt_fourHundred :
    (literal (.number .fourHundred)).DerivedAt .term ['4', '0', '0'] := by
  have htext : numberText .fourHundred = ['4', '0', '0'] := by decide +kernel
  rw [← htext]
  exact derivedAt_finite false _

/-- A number that no literal spells is read as what it is spelled out as. -/
theorem DerivedAt.literal {v : Value} (h : v.spelledOut.DerivedAt .term cs)
    (hout : v.spelledOut.spelledOut = v.spelledOut) (hv : ¬ v.Spellable) :
    (Formula.literal v).DerivedAt .term cs := by
  obtain ⟨d, hf, hspells, -⟩ := h
  exact derivedAt_term d (hf.trans hout) hspells rfl fun hspellable => absurd hspellable hv

/-- The infinities are read as a power that is too large and its difference from zero. -/
theorem derivedAt_infinite (negative : Bool) :
    (literal (.number (.infinite negative))).DerivedAt .term (numberText (.infinite negative)) := by
  have hpow : (Value.spelledOut (.number (.infinite false))).DerivedAt (.level .multiplicative)
      "10 ^ 400".toList :=
    derivedAt_infix (.arithmetic .pow) derivedAt_ten derivedAt_fourHundred
  cases negative with
  | false => exact (hpow.grouped (r := .term) (by simp)).literal rfl Bool.false_ne_true
  | true =>
    have hsub : (Value.spelledOut (.number (.infinite true))).DerivedAt (.level .additive)
        "0 - 10 ^ 400".toList := derivedAt_infix (.arithmetic .sub) derivedAt_zero hpow
    exact (hsub.grouped (r := .term) (by simp)).literal rfl Bool.false_ne_true

/-- Not-a-number is read as the remainder of zero by zero. -/
theorem derivedAt_nan : (literal (.number .nan)).DerivedAt .term (numberText .nan) := by
  have hrem : (Value.spelledOut (.number .nan)).DerivedAt (.level .multiplicative)
      "0 % 0".toList := derivedAt_infix (.arithmetic .rem) derivedAt_zero derivedAt_zero
  exact (hrem.grouped (r := .term) (by simp)).literal rfl Bool.false_ne_true

/-- A value is a term. -/
theorem derivedAt_literal (v : Value) : (literal v).DerivedAt .term (valueText v) := by
  rcases v with s | (_ | negative | ⟨negative, units, hunits⟩) | b
  case text =>
    exact derivedAt_term (.text s) rfl (.token (t := .text s) trivial) rfl fun _ => rfl
  case number.nan => exact derivedAt_nan
  case number.infinite => exact derivedAt_infinite negative
  case number.finite => exact derivedAt_finite negative hunits
  case boolean =>
    have hname := (Form.constant b).isIdentifier_name
    have hspells : Spells (applied (Form.constant b).name []) _ := .applied hname Spells.nil.closed
    refine derivedAt_term (.constant b) rfl ?_ rfl fun _ => rfl
    cases b <;> exact hspells

/-- The operands of a list, with the parenthesis that closes it. -/
def OperandsDerived (fs : List Formula) (cs : List Char) : Prop :=
  ∃ os : Operands, os.formulas = allSpelledOut fs ∧ Spells cs os.tokens ∧
    (AllSpellable fs → os.levels = deepest fs)

theorem operandsDerived_last {f : Formula} {cs : List Char} (h : f.DerivedAt .expression cs) :
    OperandsDerived [f] (listed [cs] ++ [')']) := by
  obtain ⟨d, hf, hd, hlevels⟩ := h
  exact ⟨.last d, congrArg (fun g => [g]) hf, hd.closed, fun hspellable =>
    (hlevels hspellable.1).trans (Nat.max_zero _).symm⟩

theorem operandsDerived_more {f g : Formula} {fs : List Formula} {cs ds : List Char}
    {texts : List (List Char)} (h : f.DerivedAt .expression cs)
    (hs : OperandsDerived (g :: fs) (listed (ds :: texts) ++ [')'])) :
    OperandsDerived (f :: g :: fs) (listed (cs :: ds :: texts) ++ [')']) := by
  obtain ⟨d, hf, hd, hlevels⟩ := h
  obtain ⟨os, hos, hspells, hdeepest⟩ := hs
  refine ⟨.more d os, congrArg₂ List.cons hf hos, ?_, fun hspellable => ?_⟩
  · have hlisted : listed (cs :: ds :: texts) = cs ++ ';' :: ' ' :: listed (ds :: texts) := rfl
    rw [hlisted, List.append_assoc, List.cons_append, List.cons_append]
    exact hd.separated hspells
  · rw [Operands.levels, hlevels hspellable.1, hdeepest hspellable.2]
    rfl

mutual

/-- **The canonical text of a formula is one of its derivations**, from the rule to which the
formula belongs. -/
theorem Writable.canonical : (f : Formula) → f.Writable → f.DerivedAt f.rule f.text
  | .literal v, _ => derivedAt_literal v
  | .reference name, h =>
    derivedAt_term (.reference name) rfl (.token (t := .name name) h) rfl fun _ => rfl
  | .call name [], h =>
    derivedAt_term (.bareCall name h.2.1) rfl (.applied h.1 Spells.nil.closed) rfl fun _ => rfl
  | .call name (f :: fs), h => by
    obtain ⟨hname, free, hfs⟩ := h
    obtain ⟨os, hos, hspells, hlevels⟩ :=
      AllWritable.canonical (f :: fs) hfs (List.cons_ne_nil _ _)
    exact derivedAt_term (.call name free os) (congrArg (Formula.call name) hos)
      (.applied hname hspells) rfl fun hspellable => congrArg (· + 1) (hlevels hspellable.2.2)
  | .negation operand, h => by
    obtain ⟨d, hf, hspells, hlevels⟩ := (Writable.canonical operand h).ungrouped
    exact derivedAt_term (.negation d) (congrArg Formula.negation hf)
      (.applied Form.negation.isIdentifier_name hspells.closed) rfl
      fun hspellable => congrArg (· + 1) (hlevels hspellable)
  | .binary op left right, h => by
    rw [text_binary]
    exact derivedAt_infix op (Writable.canonical left h.1) (Writable.canonical right h.2)
  | .junction kind operands, h => by
    obtain ⟨os, hos, hspells, hlevels⟩ := AllWritable.canonical operands h.2 h.1
    exact derivedAt_term (.junction kind os) (congrArg (Formula.junction kind) hos)
      (.applied (Form.junction kind).isIdentifier_name hspells) rfl
      fun hspellable => congrArg (· + 1) (hlevels hspellable.2)
  | .conditional condition onTrue onFalse, h => by
    obtain ⟨d, hf, hd, hlevels⟩ := (Writable.canonical condition h.1).ungrouped
    obtain ⟨d', hf', hd', hlevels'⟩ := (Writable.canonical onTrue h.2.1).ungrouped
    obtain ⟨d'', hf'', hd'', hlevels''⟩ := (Writable.canonical onFalse h.2.2).ungrouped
    refine derivedAt_term (.conditional d d' d'') ?_ ?_ rfl fun hspellable => ?_
    · rw [Derivation.formula, hf, hf', hf'', spelledOut]
    · refine .applied Form.conditional.isIdentifier_name ?_
      simpa [listed] using hd.separated (hd'.separated hd''.closed)
    · rw [Derivation.levels, hlevels hspellable.1, hlevels' hspellable.2.1,
        hlevels'' hspellable.2.2]
      rfl

theorem AllWritable.canonical : (fs : List Formula) → AllWritable fs → fs ≠ [] →
    OperandsDerived fs (listed (texts fs) ++ [')'])
  | [], _, hne => absurd rfl hne
  | [f], h, _ => operandsDerived_last (Writable.canonical f h.1).ungrouped
  | f :: g :: fs, h, _ =>
    operandsDerived_more (Writable.canonical f h.1).ungrouped
      (AllWritable.canonical (g :: fs) h.2 (List.cons_ne_nil _ _))

end

end Formula

end SheetFormula
