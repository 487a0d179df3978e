import SheetFormula.Proofs.Evaluation.EndAlike

/-!
# Grouping the operands of concatenations

Concatenations of concatenations put a list of operands together in some `Grouping`. However they
are grouped, the operands are evaluated from left to right up to the first one that fails or is no
text, because a concatenation looks at its left side before it comes to its right side. So the list
alone says what becomes of it: the texts of all operands make up the text of the formula
(`Grouping.evaluate_of_joins`), and an operand that the evaluation comes to in the list is visited
in the formula (`Grouping.exists_visits`), where its value, if it is no text, is refused
(`Grouping.evaluate_of_refused`).

Two groupings of one list therefore end alike: all that can differ is the side that an error names
(`Grouping.regroup`).
-/

namespace SheetFormula

/-- A **grouping** of operands that are concatenated. -/
inductive Grouping where
  | operand (f : Formula)
  | joined (left right : Grouping)

namespace Grouping

/-- The operands from left to right. -/
def operands : Grouping → List Formula
  | operand f => [f]
  | joined left right => left.operands ++ right.operands

/-- The formula that concatenates the operands in their groups. -/
def formula : Grouping → Formula
  | operand f => f
  | joined left right => .binary .concat left.formula right.formula

/-- The positions of the operands in the formula, from left to right. -/
def places : Grouping → List Position
  | operand _ => [[]]
  | joined left right => left.places.map (List.cons 0) ++ right.places.map (List.cons 1)

/-- At two positions of two groupings stands the operand with one number. -/
def SamePlace (a b : Grouping) (p q : Position) : Prop :=
  ∃ i : Nat, a.places[i]? = some p ∧ b.places[i]? = some q

theorem length_places (a : Grouping) : a.places.length = a.operands.length := by
  induction a with
  | operand f => rfl
  | joined left right ihl ihr =>
    rw [places, operands, List.length_append, List.length_append, List.length_map, List.length_map,
      ihl, ihr]

end Grouping

namespace Operator

/-- A concatenation looks at its left side alone first. -/
theorem accept_concat_of_kind_ne {v : Value} (hv : v.kind ≠ .text) :
    concat.accept v = .error (.concatOperand .left v.kind) := by
  cases v with
  | text _ => exact absurd rfl hv
  | number _ | boolean _ => rfl

theorem apply_concat_of_kind_ne (u : String) {v : Value} (hv : v.kind ≠ .text) :
    concat.apply (.text u) v = .error (.concatOperand .right v.kind) := by
  cases v with
  | text _ => exact absurd rfl hv
  | number _ | boolean _ => rfl

end Operator

namespace Formula

open SheetFormula.Evaluation SheetFormula.Sequence

variable {σ : Type} {env : Environment σ} {token : Option CancellationToken}
  {f g : Formula} {fs gs : List Formula} {s s' s₁ : σ} {i : Nat} {u : String} {v : Value}

/-- The text of a concatenation is that of its left side and that of its right side. -/
theorem evaluate_concat {t t' : String} (left : f.evaluate env token s = .ok (.text t) s₁)
    (right : g.evaluate env token s₁ = .ok (.text t') s') :
    (binary .concat f g).evaluate env token s = .ok (.text (t ++ t')) s' := by
  have haccept : (ofResult (Operator.concat.accept (.text t)) : Evaluation σ Unit) s₁ =
      .ok () s₁ := rfl
  rw [evaluate, bind_eq_of_ok left, bind_eq_of_ok haccept, bind_eq_of_ok right]
  rfl

/-! ### Lists of operands -/

/-- The formulas of a list, evaluated one after the other, all have texts, which **make up** one. -/
inductive Joins (env : Environment σ) (token : Option CancellationToken) :
    List Formula → σ → String → σ → Prop
  | nil {s : σ} : Joins env token [] s "" s
  | cons {f : Formula} {fs : List Formula} {t u : String} {s s₁ s₂ : σ}
      (text : f.evaluate env token s = .ok (.text t) s₁) (others : Joins env token fs s₁ u s₂) :
      Joins env token (f :: fs) s (t ++ u) s₂

/-- The operands up to one that is not a text are come to one after the other. -/
abbrev ComesTo (env : Environment σ) (token : Option CancellationToken) :
    List Formula → σ → Nat → Formula → σ → Prop :=
  EntersAmong env token (·.kind = .text)

theorem exists_text_of_kind (hv : v.kind = .text) : ∃ t, v = .text t := by
  cases v with
  | text t => exact ⟨t, rfl⟩
  | number _ | boolean _ => cases hv

/-- The operands of a list make up a text, or one of them is come to that fails or is no text. -/
theorem joins_or_stops (env : Environment σ) (token : Option CancellationToken)
    (fs : List Formula) (s : σ) :
    (∃ u s', Joins env token fs s u s') ∨ ∃ i f s₁, ComesTo env token fs s i f s₁ ∧
      ((∃ e s', f.evaluate env token s₁ = .error e s') ∨
        ∃ v s', f.evaluate env token s₁ = .ok v s' ∧ v.kind ≠ .text) := by
  induction fs generalizing s with
  | nil => exact .inl ⟨"", s, .nil⟩
  | cons f fs ih =>
    cases hf : f.evaluate env token s with
    | error e s' => exact .inr ⟨0, f, s, .first, .inl ⟨e, s', hf⟩⟩
    | ok v s₁ =>
      by_cases hv : v.kind = .text
      · obtain ⟨t, rfl⟩ := exists_text_of_kind hv
        rcases ih s₁ with ⟨u, s', hfs⟩ | ⟨i, g, s₂, hg, hstops⟩
        · exact .inl ⟨t ++ u, s', .cons hf hfs⟩
        · exact .inr ⟨i + 1, g, s₂, .later hf rfl hg, hstops⟩
      · exact .inr ⟨0, f, s, .first, .inr ⟨v, s₁, hf, hv⟩⟩

/-- What two lists make up one after the other is made up by each of them. -/
theorem Joins.split (h : Joins env token (fs ++ gs) s u s') :
    ∃ t s₁ t', Joins env token fs s t s₁ ∧ Joins env token gs s₁ t' s' ∧ u = t ++ t' := by
  induction fs generalizing s u with
  | nil => exact ⟨"", s, u, .nil, h, String.empty_append.symm⟩
  | cons f fs ih =>
    cases h with
    | cons text others =>
      obtain ⟨t, s₁, t', hfs, hgs, rfl⟩ := ih others
      exact ⟨_, s₁, t', .cons text hfs, hgs, String.append_assoc.symm⟩

/-- What is come to in two lists stands in the first one, or in the second one behind texts. -/
theorem EntersAmong.split (h : ComesTo env token (fs ++ gs) s i f s₁) :
    ComesTo env token fs s i f s₁ ∨
      ∃ u s' j, Joins env token fs s u s' ∧ ComesTo env token gs s' j f s₁ ∧
        i = fs.length + j := by
  induction fs generalizing s i with
  | nil => exact .inr ⟨"", s, i, .nil, h, (Nat.zero_add i).symm⟩
  | cons g fs ih =>
    cases h with
    | first => exact .inl .first
    | later value on entered =>
      rcases ih entered with hfs | ⟨u, s', j, hjoins, hgs, rfl⟩
      · exact .inl (.later value on hfs)
      · obtain ⟨t, rfl⟩ := exists_text_of_kind on
        refine .inr ⟨t ++ u, s', j, .cons value hjoins, hgs, ?_⟩
        rw [List.length_cons, Nat.add_right_comm]

end Formula

namespace Grouping

open SheetFormula.Evaluation SheetFormula.Formula SheetFormula.Sequence

variable {σ : Type} {env : Environment σ} {token : Option CancellationToken} {a b : Grouping}
  {f : Formula} {s s' s₁ : σ} {i : Nat} {u : String} {v : Value}

/-! ### Groupings of a list -/

/-- **The texts of the operands make up the text of the formula**, however they are grouped. -/
theorem evaluate_of_joins (h : Joins env token a.operands s u s') :
    a.formula.evaluate env token s = .ok (.text u) s' := by
  induction a generalizing s u s' with
  | operand f =>
    cases h with
    | cons text others =>
      cases others
      rw [String.append_empty]
      exact text
  | joined left right ihl ihr =>
    obtain ⟨t, s₁, t', hleft, hright, rfl⟩ := h.split
    exact evaluate_concat (ihl hleft) (ihr hright)

/-- The right side of a concatenation is entered behind the texts of the left side. -/
theorem enters_right {right : Grouping} (h : Joins env token a.operands s u s') :
    (joined a right).formula.Enters env token s 1 right.formula s' :=
  .right (evaluate_of_joins h) rfl

/-- **What is come to in the list is visited in the formula**, at the place of the operand. -/
theorem exists_visits (h : ComesTo env token a.operands s i f s₁) :
    ∃ p, a.places[i]? = some p ∧ a.formula.Visits env token s p f s₁ := by
  induction a generalizing s i with
  | operand g =>
    cases h with
    | first => exact ⟨[], rfl, .root⟩
    | later _ _ entered => cases entered
  | joined left right ihl ihr =>
    rcases h.split with hleft | ⟨u, s', j, hjoins, hright, rfl⟩
    · obtain ⟨p, hp, hvisits⟩ := ihl hleft
      refine ⟨0 :: p, ?_, .enter .left hvisits⟩
      have hlt : i < (left.places.map (List.cons 0)).length := by
        rw [List.length_map]
        exact (List.getElem?_eq_some_iff.mp hp).1
      rw [places, List.getElem?_append_left hlt, List.getElem?_map, hp, Option.map_some]
    · obtain ⟨p, hp, hvisits⟩ := ihr hright
      refine ⟨1 :: p, ?_, .enter (enters_right hjoins) hvisits⟩
      have hlength : (left.places.map (List.cons 0)).length = left.operands.length := by
        rw [List.length_map, length_places]
      rw [places, List.getElem?_append_right (by omega), hlength, Nat.add_sub_cancel_left,
        List.getElem?_map, hp, Option.map_some]

/-- **A value that is no text is refused**, on whichever side it is, unless it is the only one. -/
theorem evaluate_of_refused (h : ComesTo env token a.operands s i f s₁)
    (hf : f.evaluate env token s₁ = .ok v s') (hv : v.kind ≠ .text) :
    (a.operands.length = 1 ∧ a.formula.evaluate env token s = .ok v s') ∨
      ∃ side, a.formula.evaluate env token s = .error (.concatOperand side v.kind) s' := by
  induction a generalizing s i with
  | operand g =>
    cases h with
    | first => exact .inl ⟨rfl, hf⟩
    | later _ _ entered => cases entered
  | joined left right ihl ihr =>
    refine .inr ?_
    rcases h.split with hleft | ⟨u, t, j, hjoins, hright, -⟩
    · rcases ihl hleft with ⟨-, hvalue⟩ | ⟨side, herror⟩
      · have hrefused := Operator.accept_concat_of_kind_ne hv
        exact ⟨.left, (Raises.leftSide hvalue hrefused).evaluate_eq⟩
      · exact ⟨side, Enters.left.evaluate_eq herror⟩
    · rcases ihr hright with ⟨-, hvalue⟩ | ⟨side, herror⟩
      · have hrefused := Operator.apply_concat_of_kind_ne u hv
        exact ⟨.right, (Raises.operator (evaluate_of_joins hjoins) rfl hvalue hrefused).evaluate_eq⟩
      · exact ⟨side, (enters_right hjoins).evaluate_eq herror⟩

/-- Groupings of one list of at least two operands end alike. -/
theorem endAlike (h : a.operands = b.operands) (hlength : 2 ≤ a.operands.length)
    (env : Environment σ) (token : Option CancellationToken) (s : σ) :
    EndAlike env token .text (a.SamePlace b) a.formula b.formula s := by
  rcases joins_or_stops env token a.operands s with ⟨u, s', hjoins⟩ | ⟨i, f, s₁, hcomes, hstops⟩
  · exact .value rfl (evaluate_of_joins hjoins) (evaluate_of_joins (h ▸ hjoins))
  · have hcomes' : ComesTo env token b.operands s i f s₁ := h ▸ hcomes
    obtain ⟨p, hp, hvisits⟩ := exists_visits hcomes
    obtain ⟨q, hq, hvisits'⟩ := exists_visits hcomes'
    rcases hstops with ⟨e, s', hf⟩ | ⟨v, s', hf, hv⟩
    · exact .failed ⟨i, hp, hq⟩ hvisits hvisits' hf (hvisits.evaluate_eq hf)
        (hvisits'.evaluate_eq hf)
    · rcases evaluate_of_refused hcomes hf hv with ⟨hone, -⟩ | ⟨side, hleft⟩
      · omega
      · rcases evaluate_of_refused hcomes' hf hv with ⟨hone, -⟩ | ⟨side', hright⟩
        · rw [← h] at hone
          omega
        · exact .refused ⟨i, hp, hq⟩ hvisits hvisits' hf hv (.concatOperand _ _)
            (.concatOperand _ _) hleft hright

/-- **Concatenations may be regrouped.** Two groupings of one list of two or more operands have one
text, or fail at one operand: with the error of this operand, or, if it is no text, with errors that
differ at most in the side that they name. The calls and the state of the host are the same. -/
theorem regroup {a b : Grouping} (h : a.operands = b.operands) (hlength : 2 ≤ a.operands.length)
    (env : Environment σ) (token : Option CancellationToken) (s : σ) :
    EndAlike env token .text (a.SamePlace b) a.formula b.formula s ∧
      a.formula.trace env token s = b.formula.trace env token s :=
  ⟨endAlike h hlength env token s, (endAlike h hlength env.recorded token (s, [])).trace_eq⟩

/-- In `(A() & B()) & (1 & FAIL())` the number stands on the left side of a concatenation, and in
`((A() & B()) & 1) & FAIL()` on the right side of one. -/
theorem regroup_number :
    let left : Grouping := .joined (.operand (call "A" [])) (.operand (call "B" []))
    let a : Grouping := .joined left
      (.joined (.operand (literal (.number 1))) (.operand (call "FAIL" [])))
    let b : Grouping := .joined (.joined left (.operand (literal (.number 1))))
      (.operand (call "FAIL" []))
    a.operands = b.operands ∧ 2 ≤ a.operands.length ∧
      a.formula.evaluate counted none 0 = .error (.concatOperand .left .number) 2 ∧
      b.formula.evaluate counted none 0 = .error (.concatOperand .right .number) 2 ∧
      EndAlike counted none .text (a.SamePlace b) a.formula b.formula 0 ∧
      a.formula.trace counted none 0 = b.formula.trace counted none 0 := by
  intro left a b
  have hoperands : a.operands = b.operands := rfl
  have hlength : 2 ≤ a.operands.length := by decide
  exact ⟨hoperands, hlength, rfl, rfl, regroup hoperands hlength counted none 0⟩

end Grouping

end SheetFormula
