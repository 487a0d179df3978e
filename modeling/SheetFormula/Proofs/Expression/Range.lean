import SheetFormula.Proofs.Evaluation.CallOrder
import SheetFormula.Proofs.Expression.Storage

/-!
# What can be parsed

A formula that can be spelled is parsed from its canonical text, and no other formula is parsed from
any text: the formulas that can be spelled are the range of the parser. So whatever is parsed holds
no call of a reserved name, and as every call that an evaluation makes is one of the formula, a
function that an environment binds to such a name is never run (`Expression.parse_range`).
-/

namespace SheetFormula

namespace Form

/-- The names that are reserved before a parenthesis. -/
def names : List String := ["IF", "TRUE", "FALSE", "NOT", "AND", "OR"]

theorem ofName?_eq_none_iff {name : String} : ofName? name = none ↔ name ∉ names := by
  unfold ofName?
  split_ifs <;> simp_all [names]

end Form

namespace Formula

variable {σ : Type} {env : Environment σ} {token : Option CancellationToken} {f g : Formula}
  {s : σ} {c : Call} {p : Position}

/-! ### Down to the calls -/

theorem allSpellable_iff {fs : List Formula} : AllSpellable fs ↔ ∀ f ∈ fs, f.Spellable := by
  induction fs with
  | nil => simp [AllSpellable]
  | cons f fs ih => rw [AllSpellable, ih, List.forall_mem_cons]

theorem Spellable.child (h : f.Spellable) (hg : g ∈ f.children) : g.Spellable := by
  cases f with
  | literal _ | reference _ => cases hg
  | call _ fs => exact allSpellable_iff.mp h.2.2 g hg
  | negation _ =>
    rw [List.mem_singleton.mp hg]
    exact h
  | binary _ left right =>
    obtain ⟨hleft, hright⟩ := h
    have hboth : ∀ g ∈ [left, right], g.Spellable := by simp [hleft, hright]
    exact hboth g hg
  | junction _ fs => exact allSpellable_iff.mp h.2 g hg
  | conditional condition onTrue onFalse =>
    obtain ⟨hcondition, htrue, hfalse⟩ := h
    have hall : ∀ g ∈ [condition, onTrue, onFalse], g.Spellable := by
      simp [hcondition, htrue, hfalse]
    exact hall g hg

/-- What stands in a formula that can be spelled can be spelled. -/
theorem Spellable.at? (h : f.Spellable) (hp : f.at? p = some g) : g.Spellable := by
  induction p generalizing f with
  | nil =>
    cases hp
    exact h
  | cons i p ih =>
    obtain ⟨child, hchild, hrest⟩ := Option.bind_eq_some_iff.mp (at?_cons.symm.trans hp)
    exact ih (h.child (List.mem_of_getElem? hchild)) hrest

/-- **The calls that are made stand in the formula.** -/
theorem exists_call_of_mem_trace (hc : c ∈ f.trace env token s) :
    ∃ p arguments, f.at? p = some (.call c.name arguments) := by
  obtain ⟨p, arguments, _, hvisits, -⟩ := exists_calledAt_of_mem_trace hc
  exact ⟨p, arguments, hvisits.at?⟩

/-- A formula that can be spelled makes no call of a reserved name. -/
theorem Spellable.name_of_mem_trace (h : f.Spellable) (hc : c ∈ f.trace env token s) :
    c.name ∉ Form.names := by
  obtain ⟨p, arguments, hcall⟩ := exists_call_of_mem_trace hc
  have hspellable : (call c.name arguments).Spellable := h.at? hcall
  exact Form.ofName?_eq_none_iff.mp hspellable.2.1

/-! ### The range of the parser -/

/-- **A formula is parsed from some text just if it can be spelled.** -/
theorem exists_parse_iff : (∃ source m, parse m source = .ok f) ↔ f.Spellable := by
  constructor
  · rintro ⟨source, m, h⟩
    exact spellable_of_parse h
  · intro h
    rcases h.parse_display (f.levelsAt 0 + 1) with ⟨-, hparse⟩ | ⟨hrefused, -⟩
    · exact ⟨f.display, f.levelsAt 0 + 1, hparse⟩
    · exact absurd hrefused (Nat.not_succ_le_self _)

end Formula

namespace Expression

/-- **What can be parsed is what can be spelled.** A formula is parsed from some text under some
ceiling just if its numbers are finite, its names are identifiers, none of its calls has a reserved
name and none of its junctions lacks operands. So whatever the text of an expression was, its
evaluation runs no function under a reserved name, in no environment. -/
theorem parse_range :
    (∀ f : Formula, (∃ source m, Formula.parse m source = .ok f) ↔ f.Spellable) ∧
    ∀ (text : String) (m : Nat) (e : Expression), parse text m = .ok e →
      ∀ (σ : Type) (env : Environment σ) (token : Option CancellationToken) (s : σ),
        ∀ c ∈ e.root.trace env token s, c.name ∉ Form.names :=
  ⟨fun _ => Formula.exists_parse_iff, fun _ _ _ h _ _ _ _ _ hc =>
    (spellable_of_parse h).name_of_mem_trace hc⟩

/-- Every name is bound to a function here, `IF` and `TRUE` among them, and only `A` and `F` are
run. -/
theorem parse_range_conditional :
    let e : Expression := ⟨.call "F" [.conditional (.literal (.boolean true)) (.call "A" [])
      (.reference "OR")]⟩
    parse "=F(IF(TRUE(); A(); OR))" 30 = .ok e ∧
      e.root.trace Formula.counted none 0 = [⟨"A", [], none⟩, ⟨"F", [.text "A"], none⟩] ∧
      ∀ c ∈ e.root.trace Formula.counted none 0, c.name ∉ Form.names := by
  intro e
  have hspellable : e.root.Spellable :=
    ⟨by decide +kernel, rfl, ⟨trivial, ⟨by decide +kernel, rfl, trivial⟩,
      show IsIdentifier "OR" by decide +kernel⟩, trivial⟩
  have hencode : e.encode = "=F(IF(TRUE(); A(); OR))" := by decide +kernel
  have hparse : parse "=F(IF(TRUE(); A(); OR))" 30 = .ok e := by
    rw [← hencode]
    exact ((parse_encode_cases hspellable 30).resolve_right fun h => absurd h.1 (by decide)).2
  exact ⟨hparse, rfl, parse_range.2 _ _ _ hparse _ _ _ _⟩

end Expression

end SheetFormula
