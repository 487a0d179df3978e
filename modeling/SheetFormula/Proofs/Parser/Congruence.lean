import SheetFormula.Proofs.Parser.Moves

/-!
# Relations that go through the rules

The body of a rule is made of moves, of the rules below it, and of sequences of these. What holds
between two actions therefore holds between a rule and itself under two ways of entering the rules
below it, if it holds of these ways, of every move and itself, and goes through sequences
(`Parse.Congruence.body`).

Of the moves only this is known: they neither enter a rule nor leave one, and so the nesting stays
as it is, whatever their outcome, and they are not refused at the ceiling (`Parse.Flat`).
-/

namespace SheetFormula

/-! ### Moves -/

/-- `q` counts the same **nesting** as `p`. -/
structure Parser.SameNesting (p q : Parser) : Prop where
  depth : q.depth = p.depth
  deepest : q.deepest = p.deepest

/-- An action is **flat** if it leaves the nesting as it is, be its outcome a result or an error,
and the error is not that of the ceiling. -/
def Parse.Flat {α : Type} (a : Parse α) : Prop :=
  ∀ p, Ensures a p (fun _ q => p.SameNesting q)
    fun e q => p.SameNesting q ∧ e.fault ≠ .maximumDepth

namespace Parse.Flat

variable {α β : Type} {a : Parse α} {f : α → Parse β}

theorem pure (x : α) : Flat (Pure.pure x : Parse α) := fun _ => ⟨rfl, rfl⟩

theorem throw {e : SyntaxError} (he : e.fault ≠ .maximumDepth) : Flat (throw e : Parse α) :=
  fun _ => ⟨⟨rfl, rfl⟩, he⟩

theorem get : Flat get := fun _ => ⟨rfl, rfl⟩

theorem bind (ha : Flat a) (hf : ∀ x, Flat (f x)) : Flat (a >>= f) := by
  intro p
  refine Ensures.bind (ha p) fun x q hq => ?_
  have htrans : ∀ r, q.SameNesting r → p.SameNesting r := fun r hr =>
    ⟨hr.depth.trans hq.depth, hr.deepest.trans hq.deepest⟩
  exact Ensures.mono (hf x q) (fun _ => htrans) fun _ r hr => ⟨htrans r hr.1, hr.2⟩

theorem ite {b : Parse α} {c : Prop} [Decidable c] (ha : Flat a) (hb : Flat b) :
    Flat (if c then a else b) := by
  split
  · exact ha
  · exact hb

end Parse.Flat

namespace Parser

open Parse

theorem flat_lookAhead (ahead : Option Located) :
    Flat (modify fun p : Parser => { p with ahead := ahead }) := fun _ => ⟨rfl, rfl⟩

theorem flat_pull : Flat pull := by
  rintro ⟨ahead, pending, reached, length, depth, deepest⟩
  rcases pending with _ | ⟨⟨t | f, start, stop⟩, items⟩
  case cons.fault => exact ⟨⟨rfl, rfl⟩, nofun⟩
  all_goals exact ⟨rfl, rfl⟩

theorem flat_peek : Flat peek := by
  refine .bind .get fun p => ?_
  cases p.ahead with
  | some t => exact .pure _
  | none => exact .bind flat_pull fun found => .bind (flat_lookAhead found) fun _ => .pure _

theorem flat_peekIs (t : Token) : Flat (peekIs t) := .bind flat_peek fun _ => .pure _

theorem flat_next : Flat next := by
  refine .bind .get fun p => ?_
  cases p.ahead with
  | some t => exact .bind (flat_lookAhead none) fun _ => .pure t
  | none =>
    refine .bind flat_pull fun found => ?_
    cases found with
    | some t => exact .pure t
    | none => exact .bind .get fun _ => .throw nofun

theorem flat_expectSymbol (s : Symbol) : Flat (expectSymbol s) :=
  .bind (flat_peekIs _) fun _ => .ite (flat_lookAhead none) (.bind .get fun _ => .throw nofun)

theorem flat_peekOperator (l : Level) : Flat (peekOperator l) := .bind flat_peek fun _ => .pure _

theorem flat_negativeNumber : Flat negativeNumber := by
  refine .bind flat_peek fun next? => ?_
  rcases next? with _ | (x | _ | _ | _)
  case some.number => exact .bind flat_next fun _ => .pure _
  all_goals exact .bind .get fun _ => .throw nofun

end Parser

/-! ### Rules -/

/-- A relation between actions is a **congruence** if it holds of flat actions and themselves and
goes through sequences. -/
structure Parse.Congruence (R : ∀ α : Type, Parse α → Parse α → Prop) : Prop where
  refl : ∀ {α : Type} {a : Parse α}, Flat a → R α a a
  bind : ∀ {α β : Type} {a b : Parse α} {f g : α → Parse β},
    R α a b → (∀ x, R β (f x) (g x)) → R β (a >>= f) (b >>= g)

namespace Parse.Congruence

open SheetFormula.Parser

variable {R : ∀ α : Type, Parse α → Parse α → Prop} {operand operand' : Parse Formula}

theorem moreOperands (hR : Congruence R) (h : R _ operand operand') (fuel : Nat) :
    R _ (Parser.moreOperands operand fuel) (Parser.moreOperands operand' fuel) := by
  induction fuel with
  | zero => exact hR.refl (.pure [])
  | succ fuel ih =>
    rw [Parser.moreOperands, Parser.moreOperands]
    refine hR.bind (hR.refl (flat_peekIs _)) fun _ => ?_
    split
    · refine hR.bind (hR.refl flat_next) fun _ => hR.bind h fun _ => ?_
      exact hR.bind ih fun _ => hR.refl (.pure _)
    · exact hR.refl (.pure [])

theorem operands (hR : Congruence R) (h : R _ operand operand') :
    R _ (Parser.operands operand) (Parser.operands operand') := by
  refine hR.bind h fun _ => hR.bind (hR.refl .get) fun _ => ?_
  refine hR.bind (hR.moreOperands h _) fun _ => ?_
  exact hR.refl (.bind (flat_expectSymbol _) fun _ => .pure _)

/-- An operand and the symbol behind it. -/
theorem operand_then (hR : Congruence R) {α : Type} {s : Symbol} {k k' : Formula → Parse α}
    (h : R _ operand operand') (hk : ∀ f, R _ (k f) (k' f)) :
    R _ (do let f ← operand; expectSymbol s; k f)
      (do let f ← operand'; expectSymbol s; k' f) :=
  hR.bind h fun f => hR.bind (hR.refl (flat_expectSymbol s)) fun _ => hk f

theorem form (hR : Congruence R) (h : R _ operand operand') (reserved : Form) :
    R _ (Parser.form operand reserved) (Parser.form operand' reserved) := by
  cases reserved with
  | conditional =>
    refine hR.operand_then h fun _ => hR.operand_then h fun _ => ?_
    exact hR.operand_then h fun _ => hR.refl (.pure _)
  | constant b => exact hR.refl (.bind (flat_expectSymbol _) fun _ => .pure _)
  | negation => exact hR.operand_then h fun _ => hR.refl (.pure _)
  | junction kind => exact hR.bind (hR.operands h) fun _ => hR.refl (.pure _)

theorem arguments (hR : Congruence R) (h : R _ operand operand') :
    R _ (Parser.arguments operand) (Parser.arguments operand') := by
  refine hR.bind (hR.refl (flat_peekIs _)) fun _ => ?_
  split
  · exact hR.refl (.bind flat_next fun _ => .pure _)
  · exact hR.operands h

theorem term (hR : Congruence R) (h : R _ operand operand') :
    R _ (Parser.term operand) (Parser.term operand') := by
  refine hR.bind (hR.refl flat_next) ?_
  rintro ⟨x | s | name | s, start⟩
  · exact hR.refl (.pure _)
  · exact hR.refl (.pure _)
  · refine hR.bind (hR.refl (flat_peekIs _)) fun _ => ?_
    split
    · refine hR.bind (hR.refl flat_next) fun _ => ?_
      cases Form.ofName? name with
      | some reserved => exact hR.form h reserved
      | none => exact hR.bind (hR.arguments h) fun _ => hR.refl (.pure _)
    · exact hR.refl (.pure _)
  · cases s with
    | leftParen => exact hR.operand_then h fun _ => hR.refl (.pure _)
    | minus => exact hR.refl flat_negativeNumber
    | _ => exact hR.refl (.throw nofun)

theorem chain (hR : Congruence R) {leftSide leftSide' rightSide rightSide' : Parse Formula}
    (l : Level) (hleft : R _ leftSide leftSide') (hright : R _ rightSide rightSide') :
    R _ (Parser.chain l leftSide rightSide) (Parser.chain l leftSide' rightSide') := by
  refine hR.bind hleft fun _ => hR.bind (hR.refl (flat_peekOperator l)) fun op? => ?_
  cases op? with
  | none => exact hR.refl (.pure _)
  | some op =>
    refine hR.bind (hR.refl flat_next) fun _ => ?_
    exact hR.bind hright fun _ => hR.refl (.pure _)

theorem program (hR : Congruence R) {expression expression' : Parse Formula}
    (h : R _ expression expression') :
    R _ (Parser.program expression) (Parser.program expression') := by
  refine hR.bind h fun f => hR.refl (.bind flat_peek fun _ => .bind .get fun p => ?_)
  cases p.ahead with
  | none => exact .pure f
  | some t => exact .bind (flat_lookAhead none) fun _ => .throw nofun

/-- **A relation goes through the body of a rule**, from the ways in which the rules below it are
entered. -/
theorem body (hR : Congruence R) (enter enter' : Rule → Parse Formula)
    (h : ∀ r, R _ (enter r) (enter' r)) (r : Rule) : R _ (r.body enter) (r.body enter') := by
  cases r with
  | program => exact hR.program (h .expression)
  | level l => exact hR.chain l (h l.tighter) (h (.level l))
  | term => exact hR.term (h .expression)

end Parse.Congruence

end SheetFormula
