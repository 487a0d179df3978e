import Mathlib.Data.List.Forall2
import SheetFormula.Expression.Evaluate
import SheetFormula.Proofs.Binary64.SignedZeros
import SheetFormula.Proofs.Evaluation.Causes
import SheetFormula.Proofs.Expression.RoundTrip

/-!
# Expressions that are the same

Formulas are the same when their literals are numerically equal, and so they may differ in the signs
of zeros. That makes almost no difference: where names are bound to values, formulas that are the
same have the same error, or values that are equal or both not-a-number
(`Expression.same_behaves`).

Only in a power can the sign of a zero become that of an infinity. The evaluations of two formulas
**part** where they come, at one position, to powers of the two zeros to a negative odd number
(`Formula.PartAtPower`), and only there can a difference begin between what is the same.
-/

namespace SheetFormula

open SheetFormula.Evaluation SheetFormula.Sequence

/-! ### Alike values -/

namespace Value

/-- Two values are **alike** if they are the same text or boolean, or alike numbers. -/
inductive Alike : Value → Value → Prop
  | text (s : String) : Alike (.text s) (.text s)
  | number {x y : Binary64} (numbers : x.Alike y) : Alike (.number x) (.number y)
  | boolean (b : Bool) : Alike (.boolean b) (.boolean b)

variable {v v' w w' : Value}

/-- Alike values are equal values, unless they are no numbers. -/
theorem alike_iff :
    v.Alike w ↔ v.equals w = true ∨ (v = .number .nan ∧ w = .number .nan) := by
  constructor
  · rintro (s | hxy | b)
    · exact .inl (beq_self_eq_true s)
    · refine (Binary64.alike_iff.mp hxy).imp_right ?_
      rintro ⟨rfl, rfl⟩
      exact ⟨rfl, rfl⟩
    · exact .inl (beq_self_eq_true b)
  · rintro (h | ⟨rfl, rfl⟩)
    · cases v <;> cases w <;> try cases h
      case text.text s t =>
        obtain rfl := eq_of_beq h
        exact .text s
      case number.number x y => exact .number (Binary64.alike_iff.mpr (.inl h))
      case boolean.boolean b c =>
        obtain rfl := eq_of_beq h
        exact .boolean b
    · exact .number (.refl _)

theorem Alike.refl (v : Value) : v.Alike v := by
  cases v with
  | text s => exact .text s
  | number x => exact .number (.refl x)
  | boolean b => exact .boolean b

theorem Alike.kind_eq (h : v.Alike w) : v.kind = w.kind := by
  cases h <;> rfl

theorem Alike.equals_eq (hv : v.Alike v') (hw : w.Alike w') : v.equals w = v'.equals w' := by
  cases hv <;> cases hw
  case number.number _ _ hx _ _ hy => exact hx.equals_eq hy
  all_goals rfl

end Value

/-! ### Operators on alike values -/

/-- The results of an arithmetic operation on alike numbers are alike, but for powers of the two
zeros to a negative odd number. -/
theorem ArithmeticOp.rel_compute? {x x' y y' : Binary64} (op : ArithmeticOp) (hx : x.Alike x')
    (hy : y.Alike y') :
    (op = .pow ∧ ∃ a, x = .zero a ∧ x' = .zero (!a) ∧ y' = y ∧ y.NegativeOdd) ∨
      Option.Rel Binary64.Alike (op.compute? x y) (op.compute? x' y') := by
  cases op with
  | add => exact .inr (.some (hx.add hy))
  | sub => exact .inr (.some (hx.sub hy))
  | mul => exact .inr (.some (hx.mul hy))
  | div =>
    rw [compute?, compute?, ← hy.isZero_eq]
    cases hzero : y.isZero with
    | true => exact .inr .none
    | false => exact .inr (.some (hx.div hy hzero))
  | pow => exact (hx.pow hy).symm.imp (And.intro rfl) .some
  | rem => exact .inr (.some (hx.rem hy))

namespace Operator

variable {v v' w w' : Value} {σ : Type}

theorem accept_eq_of_alike (op : Operator) (hv : v.Alike v') : op.accept v = op.accept v' := by
  cases hv <;> cases op <;> rfl

/-- **What an operator makes of alike values is alike**, but for powers of the two zeros to a
negative odd number. -/
theorem related_apply (op : Operator) (hv : v.Alike v') (hw : w.Alike w') (s : σ) :
    (op = .arithmetic .pow ∧ ∃ a y, v = .number (.zero a) ∧ v' = .number (.zero !a) ∧
      w = .number y ∧ w' = .number y ∧ y.NegativeOdd) ∨
      Related Value.Alike (ofResult (op.apply v w) s) (ofResult (op.apply v' w') s) := by
  cases op with
  | arithmetic op =>
    cases hv with
    | number hx =>
      cases hw with
      | number hy =>
        rcases op.rel_compute? hx hy with ⟨rfl, a, rfl, rfl, rfl, hodd⟩ | hresults
        · exact .inl ⟨rfl, a, _, rfl, rfl, rfl, rfl, hodd⟩
        · rw [apply, apply, ArithmeticOp.apply, ArithmeticOp.apply]
          revert hresults
          generalize op.compute? _ _ = z, op.compute? _ _ = z'
          intro hresults
          cases hresults with
          | none => exact .inr .error
          | some h => exact .inr (.ok (.number h))
      | _ => exact .inr .error
    | _ => cases hw <;> exact .inr .error
  | equality op =>
    rw [apply, apply, EqualityOp.apply, EqualityOp.apply, hv.kind_eq, hw.kind_eq,
      hv.equals_eq hw]
    exact .inr (.refl .refl _)
  | ordering op =>
    cases hv with
    | number hx =>
      cases hw with
      | number hy =>
        rw [apply, apply, OrderingOp.apply, OrderingOp.apply, hx.compare?_eq hy]
        exact .inr (.refl .refl _)
      | _ => exact .inr .error
    | _ => cases hw <;> exact .inr (.refl .refl _)
  | concat => cases hv <;> cases hw <;> exact .inr (.refl .refl _)

end Operator

/-! ### Evaluations that part -/

namespace Formula

variable {σ : Type}

/-- The evaluations of two formulas from one state **part** if they come, at one position, to powers
of the two zeros to one negative odd number; these powers are the two infinities. -/
def PartAtPower (env : Environment σ) (token : Option CancellationToken) (f g : Formula) (s : σ) :
    Prop :=
  ∃ p f' g' s₁ s₂ negative y,
    f.Visits env token s p f' s₁ ∧ g.Visits env token s p g' s₁ ∧
    Sides env token f' s₁ (.arithmetic .pow) (.number (.zero negative)) (.number y) s₂ ∧
    Sides env token g' s₁ (.arithmetic .pow) (.number (.zero !negative)) (.number y) s₂ ∧
    y.NegativeOdd ∧
    f'.evaluate env token s₁ = .ok (.number (.infinite negative)) s₂ ∧
    g'.evaluate env token s₁ = .ok (.number (.infinite !negative)) s₂

/-- The power of a zero to a negative odd number, between its sides. -/
theorem Sides.evaluate_pow {env : Environment σ} {token : Option CancellationToken} {f : Formula}
    {s s' : σ} {negative : Bool} {y : Binary64}
    (hf : Sides env token f s (.arithmetic .pow) (.number (.zero negative)) (.number y) s')
    (hodd : y.NegativeOdd) :
    f.evaluate env token s = .ok (.number (.infinite negative)) s' := by
  cases hf with
  | binary left right =>
    have haccept : Operator.accept (.arithmetic .pow) (.number (.zero negative)) = .ok () := rfl
    rw [evaluate, bind_eq_of_ok left, haccept, ofResult, pure_bind, bind_eq_of_ok right]
    rw [Operator.apply, ArithmeticOp.apply, ArithmeticOp.compute?,
      Binary64.zero_pow_of_negativeOdd negative hodd]
    rfl

/-- Two formulas **behave alike** if their evaluations have the same error or alike values, unless
they part. -/
def BehaveAlike (env : Environment σ) (token : Option CancellationToken) (f g : Formula) : Prop :=
  ∀ s, PartAtPower env token f g s ∨
    Related Value.Alike (f.evaluate env token s) (g.evaluate env token s)

variable {env : Environment σ} {token : Option CancellationToken} {f f' g g' h h' : Formula}
  {fs gs : List Formula} {s s₁ : σ} {i : Nat}

/-- What parts in children that are entered alike parts in the formulas. -/
theorem PartAtPower.enter (h : PartAtPower env token f g s₁) (hf : f'.Enters env token s i f s₁)
    (hg : g'.Enters env token s i g s₁) : PartAtPower env token f' g' s := by
  obtain ⟨p, f₁, g₁, s₂, s₃, negative, y, hvisits, hvisits', hrest⟩ := h
  exact ⟨i :: p, f₁, g₁, s₂, s₃, negative, y, .enter hf hvisits, .enter hg hvisits', hrest⟩

/-- Children that are entered alike and behave alike. -/
theorem BehaveAlike.enter (h : BehaveAlike env token f g) (hf : f'.Enters env token s i f s₁)
    (hg : g'.Enters env token s i g s₁) :
    PartAtPower env token f' g' s ∨
      Related Value.Alike (f.evaluate env token s₁) (g.evaluate env token s₁) :=
  (h s₁).imp_left fun hparts => hparts.enter hf hg

theorem BehaveAlike.refl (f : Formula) : BehaveAlike env token f f := fun _ => .inr (.refl .refl _)

theorem related_demand {v w : Value} (construct : Construct) (h : v.Alike w) (s : σ) :
    Related Eq ((demand construct v : Evaluation σ Bool) s) (demand construct w s) := by
  cases h with
  | boolean b => exact .ok rfl
  | text _ | number _ => exact .error

/-- Where names are bound to values, a call is refused before its arguments are evaluated. -/
theorem behaveAlike_call (hvalues : ∀ name F, env.get name ≠ some (.function F)) (name : String)
    (fs gs : List Formula) : BehaveAlike env token (.call name fs) (.call name gs) := by
  intro s
  rw [evaluate, evaluate, resolveFunction]
  rcases hname : env.get name with _ | v | F
  · exact .inr .error
  · exact .inr .error
  · exact absurd hname (hvalues name F)

theorem BehaveAlike.negation (hf : BehaveAlike env token f g) :
    BehaveAlike env token (.negation f) (.negation g) := by
  intro s
  rw [evaluate, evaluate]
  refine Related.bind (hf.enter .negated .negated) fun v w t _ _ hvw => ?_
  refine Related.bind (.inr (related_demand _ hvw t)) fun b c u _ _ hbc => ?_
  subst hbc
  exact .inr (.refl .refl _)

theorem BehaveAlike.conditional (hf : BehaveAlike env token f f') (hg : BehaveAlike env token g g')
    (hh : BehaveAlike env token h h') :
    BehaveAlike env token (.conditional f g h) (.conditional f' g' h') := by
  intro s
  rw [evaluate, evaluate]
  refine Related.bind (hf.enter .condition .condition) fun v w t hv hw hvw => ?_
  refine Related.bind (.inr (related_demand _ hvw t)) fun b c u hb hc hbc => ?_
  subst hbc
  obtain ⟨rfl, rfl⟩ := demand_eq_ok hb
  obtain ⟨rfl, -⟩ := demand_eq_ok hc
  cases b with
  | true => exact hg.enter (.onTrue hv) (.onTrue hw)
  | false => exact hh.enter (.onFalse hv) (.onFalse hw)

/-- Between sides that behave alike an operator does, unless the evaluations part at itself. -/
theorem BehaveAlike.binary (op : Operator) (hf : BehaveAlike env token f f')
    (hg : BehaveAlike env token g g') :
    BehaveAlike env token (.binary op f g) (.binary op f' g') := by
  intro s
  rw [evaluate, evaluate]
  refine Related.bind (hf.enter .left .left) fun v v' t hv hv' hvv => ?_
  -- alike left sides are both accepted or both refused, with one error
  rw [op.accept_eq_of_alike hvv]
  refine Related.bind (.inr (.refl (fun _ => rfl) _)) fun _ _ u hu _ _ => ?_
  obtain ⟨haccept', rfl⟩ := ofResult_eq_ok hu
  have haccept := (op.accept_eq_of_alike hvv).trans haccept'
  refine Related.bind (hg.enter (.right hv haccept) (.right hv' haccept'))
    fun w w' t' hw hw' hww => ?_
  refine (op.related_apply hvv hww t').imp_left ?_
  -- if the results are not alike, the evaluations part here
  rintro ⟨rfl, negative, y, rfl, rfl, rfl, rfl, hodd⟩
  have hsides : Sides env token (.binary (.arithmetic .pow) f g) s _ _ _ t' := .binary hv hw
  have hsides' : Sides env token (.binary (.arithmetic .pow) f' g') s _ _ _ t' := .binary hv' hw'
  exact ⟨[], _, _, s, t', negative, y, .root, .root, hsides, hsides', hodd,
    hsides.evaluate_pow hodd, hsides'.evaluate_pow hodd⟩

/-- Operands that behave alike, one by one, settle a junction alike, or something excuses it. -/
theorem related_evaluateJunction {kind : Junction} {excuse : Prop}
    (hfs : List.Forall₂ (BehaveAlike env token) fs gs)
    (hexcuse : ∀ i f g t, EntersAmong env token (· = .boolean kind.neutral) fs s i f t →
      EntersAmong env token (· = .boolean kind.neutral) gs s i g t →
      PartAtPower env token f g t → excuse) :
    excuse ∨ Related Value.Alike (evaluateJunction env token kind fs s)
      (evaluateJunction env token kind gs s) := by
  induction hfs generalizing s with
  | nil => exact .inr (.refl .refl _)
  | cons hf _ ih =>
    rw [evaluateJunction, evaluateJunction]
    refine Related.bind ((hf s).imp_left (hexcuse 0 _ _ s .first .first)) fun v w t hv hw hvw => ?_
    refine Related.bind (.inr (related_demand _ hvw t)) fun b c u hb hc hbc => ?_
    subst hbc
    obtain ⟨rfl, rfl⟩ := demand_eq_ok hb
    obtain ⟨rfl, -⟩ := demand_eq_ok hc
    split
    · next hneutral =>
      subst hneutral
      refine ih fun i f g t' hentered hentered' => ?_
      exact hexcuse (i + 1) f g t' (.later hv rfl hentered) (.later hw rfl hentered')
    · exact .inr (.refl .refl _)

theorem behaveAlike_junction (kind : Junction) (hfs : List.Forall₂ (BehaveAlike env token) fs gs) :
    BehaveAlike env token (.junction kind fs) (.junction kind gs) := by
  intro s
  rw [evaluate, evaluate]
  exact related_evaluateJunction hfs fun i f g t hentered hentered' hparts =>
    hparts.enter (.joined hentered) (.joined hentered')

mutual

/-- **Formulas that are the same behave alike.** -/
theorem behaveAlike_of_same (hvalues : ∀ name F, env.get name ≠ some (.function F)) :
    (f g : Formula) → f.same g = true → BehaveAlike env token f g
  | .literal v, g, h => by
    cases g with
    | literal w => exact fun _ => .inr (.ok (Value.alike_iff.mpr (.inl h)))
    | _ => cases h
  | .reference name, g, h => by
    cases g with
    | reference name' =>
      obtain rfl : name = name' := eq_of_beq h
      exact .refl _
    | _ => cases h
  | .call name fs, g, h => by
    cases g with
    | call name' gs =>
      obtain rfl : name = name' := eq_of_beq (Bool.and_eq_true_iff.mp h).1
      exact behaveAlike_call hvalues name fs gs
    | _ => cases h
  | .negation f, g, h => by
    cases g with
    | negation g => exact (behaveAlike_of_same hvalues f g h).negation
    | _ => cases h
  | .binary op f f', g, h => by
    cases g with
    | binary op' g g' =>
      obtain ⟨hsides, hright⟩ := Bool.and_eq_true_iff.mp h
      obtain ⟨hop, hleft⟩ := Bool.and_eq_true_iff.mp hsides
      obtain rfl : op = op' := eq_of_beq hop
      have hg := behaveAlike_of_same hvalues f' g' hright
      exact (behaveAlike_of_same hvalues f g hleft).binary op hg
    | _ => cases h
  | .junction kind fs, g, h => by
    cases g with
    | junction kind' gs =>
      obtain ⟨hkind, hoperands⟩ := Bool.and_eq_true_iff.mp h
      obtain rfl : kind = kind' := eq_of_beq hkind
      exact behaveAlike_junction kind (forall₂_behaveAlike_of_sameAll hvalues fs gs hoperands)
    | _ => cases h
  | .conditional f f' f'', g, h => by
    cases g with
    | conditional g g' g'' =>
      obtain ⟨hfirst, hfalse⟩ := Bool.and_eq_true_iff.mp h
      obtain ⟨hcondition, htrue⟩ := Bool.and_eq_true_iff.mp hfirst
      have hg := behaveAlike_of_same hvalues f' g' htrue
      have hg' := behaveAlike_of_same hvalues f'' g'' hfalse
      exact (behaveAlike_of_same hvalues f g hcondition).conditional hg hg'
    | _ => cases h

theorem forall₂_behaveAlike_of_sameAll (hvalues : ∀ name F, env.get name ≠ some (.function F)) :
    (fs gs : List Formula) → sameAll fs gs = true → List.Forall₂ (BehaveAlike env token) fs gs
  | [], gs, h => by
    cases gs with
    | nil => exact .nil
    | cons _ _ => cases h
  | f :: fs, gs, h => by
    cases gs with
    | nil => cases h
    | cons g gs =>
      obtain ⟨hf, hfs⟩ := Bool.and_eq_true_iff.mp h
      have hrest := forall₂_behaveAlike_of_sameAll hvalues fs gs hfs
      exact .cons (behaveAlike_of_same hvalues f g hf) hrest

end

end Formula

/-! ### Expressions -/

namespace Expression

/-- A zero to the power of minus one. -/
def zeroPower (negative : Bool) : Expression :=
  ⟨.binary (.arithmetic .pow) (.literal (.number (.zero negative)))
    (.literal (.number (.one true)))⟩

theorem encode_zeroPower :
    (zeroPower true).encode = "=-0 ^ -1" ∧ (zeroPower false).encode = "=0 ^ -1" := by
  decide +kernel

theorem parse_encode_zeroPower (negative : Bool) :
    parse (zeroPower negative).encode 10 = .ok (zeroPower negative) := by
  have hspellable : (zeroPower negative).root.Spellable := ⟨rfl, rfl⟩
  have hlevels : ¬ 10 ≤ (zeroPower negative).root.levelsAt 0 := by cases negative <;> decide
  exact ((parse_encode_cases hspellable 10).resolve_right fun h => hlevels h.1).2

theorem same_zeroPower : (zeroPower true).same (zeroPower false) = true := by
  decide +kernel

theorem evaluate_zeroPower {σ : Type} (env : Environment σ) (negative : Bool) (s : σ) :
    (zeroPower negative).evaluate env s = .ok (.number (.infinite negative)) s := by
  have hodd : (Binary64.one true).NegativeOdd := by
    have hwhole : Binary64.isOddWhole unitsPerOne = true := by decide +kernel
    exact hwhole
  exact Formula.Sides.evaluate_pow (.binary rfl rfl) hodd

/-- Expressions may be the same and have different values: the two zeros to the power of minus one
are the two infinities. -/
theorem not_same_behaves :
    ¬ ∀ (text text' : String) (m : Nat) (a b : Expression), parse text m = .ok a →
      parse text' m = .ok b → a.same b = true →
      ∀ env : Environment Unit, (∀ name F, env.get name ≠ some (.function F)) →
        (∃ e, a.evaluate env () = .error e () ∧ b.evaluate env () = .error e ()) ∨
          ∃ v w, a.evaluate env () = .ok v () ∧ b.evaluate env () = .ok w () ∧
            (v.equals w = true ∨ (v = .number .nan ∧ w = .number .nan)) := by
  intro h
  have hparse : parse "=-0 ^ -1" 10 = .ok (zeroPower true) := by
    rw [← encode_zeroPower.1, parse_encode_zeroPower]
  have hparse' : parse "=0 ^ -1" 10 = .ok (zeroPower false) := by
    rw [← encode_zeroPower.2, parse_encode_zeroPower]
  rcases h _ _ 10 _ _ hparse hparse' same_zeroPower .empty nofun with
    ⟨e, he, -⟩ | ⟨v, w, hv, hw, hvw⟩
  · cases (evaluate_zeroPower .empty true ()).symm.trans he
  · cases (evaluate_zeroPower .empty true ()).symm.trans hv
    cases (evaluate_zeroPower .empty false ()).symm.trans hw
    rcases hvw with hequal | ⟨hnan, -⟩
    · exact absurd hequal (by decide +kernel)
    · cases hnan

/-- **Expressions that are the same behave the same**, where names are bound to values: their
evaluations have the same error, or values that are equal or both not-a-number, unless they part at
a power of the two zeros to a negative odd number. -/
theorem same_behaves {σ : Type} (env : Environment σ) (token : Option CancellationToken)
    (a b : Expression) (s : σ) (h : a.same b = true)
    (hvalues : ∀ name F, env.get name ≠ some (.function F)) :
    Formula.PartAtPower env token a.root b.root s ∨
      (∃ e t, a.root.evaluate env token s = .error e t ∧
        b.root.evaluate env token s = .error e t) ∨
      ∃ v w t, a.root.evaluate env token s = .ok v t ∧ b.root.evaluate env token s = .ok w t ∧
        (v.equals w = true ∨ (v = .number .nan ∧ w = .number .nan)) := by
  refine (Formula.behaveAlike_of_same hvalues a.root b.root h s).imp_right fun hrelated => ?_
  generalize a.root.evaluate env token s = r, b.root.evaluate env token s = r' at hrelated ⊢
  cases hrelated with
  | ok results => exact .inr ⟨_, _, _, rfl, rfl, Value.alike_iff.mp results⟩
  | error => exact .inl ⟨_, _, rfl, rfl⟩

/-- The sums of the two zeros and a negative zero are the two zeros, which are equal. -/
theorem same_behaves_sum :
    let sum (negative : Bool) : Expression :=
      ⟨.binary (.arithmetic .add) (.literal (.number (.zero negative))) (.reference "x")⟩
    let env : Environment Unit := ⟨fun _ => some (.value (.number (.zero true)))⟩
    (sum true).same (sum false) = true ∧ (∀ name F, env.get name ≠ some (.function F)) ∧
      ∃ v w t, (sum true).root.evaluate env none () = .ok v t ∧
        (sum false).root.evaluate env none () = .ok w t ∧
        (v.equals w = true ∨ (v = .number .nan ∧ w = .number .nan)) := by
  intro sum env
  have hsame : (sum true).same (sum false) = true := by decide +kernel
  have hvalues : ∀ name F, env.get name ≠ some (.function F) := nofun
  refine ⟨hsame, hvalues, ?_⟩
  rcases same_behaves env none _ _ () hsame hvalues with hparts | ⟨e, t, he, -⟩ | halike
  · -- there is no power in the sum
    obtain ⟨p, f, g, s₁, s₂, negative, y, hvisits, -, hsides, -⟩ := hparts
    cases hvisits with
    | root => cases hsides
    | enter henters hbelow =>
      cases henters with
      | left | right _ _ =>
        cases hbelow with
        | root => cases hsides
        | enter henters _ => cases henters
  · cases he
  · exact halike

end Expression

end SheetFormula
