import Mathlib.Data.List.Lex
import SheetFormula.Operator.Apply
import SheetFormula.Proofs.Binary64.SignedZeros
import SheetFormula.Proofs.Text.Encoding

/-!
# The relational operators

The six tests between two values go back to one comparison (`Value.compare?`), which between texts
is the lexicographic order by code points and between numbers their order on the line. Only beside
not-a-number is there none. So the tests form one order on the texts and one on the numbers, and of
values that have no order they fail with one error (`Operator.relations_consistent`).
-/

namespace SheetFormula

/-! ### The order of numbers -/

namespace Binary64

variable {x y z : Binary64}

theorem compare?_swap (x y : Binary64) : y.compare? x = (x.compare? y).map Ordering.swap := by
  unfold compare?
  cases x.rank with
  | none => cases y.rank <;> rfl
  | some a =>
    cases y.rank with
    | none => rfl
    | some b => exact congrArg some Std.OrientedCmp.eq_swap

theorem compare?_trans (hxy : x.compare? y = some .lt) (hyz : y.compare? z = some .lt) :
    x.compare? z = some .lt := by
  unfold compare? at *
  cases hx : x.rank with
  | none => simp [hx] at hxy
  | some a =>
    cases hy : y.rank with
    | none => simp [hy] at hyz
    | some b =>
      cases hz : z.rank with
      | none => simp [hz] at hyz
      | some c =>
        simp only [hx, hy, hz] at hxy hyz ⊢
        exact congrArg some (Std.TransCmp.lt_trans (Option.some.inj hxy) (Option.some.inj hyz))

/-- Only not-a-number has no place in the order. -/
theorem compare?_eq_none : x.compare? y = none ↔ x = .nan ∨ y = .nan := by
  unfold compare?
  cases hx : x.rank with
  | none => simp [eq_nan_of_rank hx]
  | some a =>
    have hxne : x ≠ .nan := fun h => by cases (h ▸ hx : rank .nan = some a)
    cases hy : y.rank with
    | none => simp [eq_nan_of_rank hy]
    | some b =>
      have hyne : y ≠ .nan := fun h => by cases (h ▸ hy : rank .nan = some b)
      simp [hxne, hyne]

end Binary64

/-! ### The comparison of values -/

namespace Value

/-- Two values are **comparable** when they are of one kind, which is not that of booleans. -/
def Comparable (a b : Value) : Prop := a.kind = b.kind ∧ a.kind ≠ .boolean

instance (a b : Value) : Decidable (Comparable a b) :=
  inferInstanceAs (Decidable (a.kind = b.kind ∧ a.kind ≠ .boolean))

/-- The order of two values, absent when they are not comparable or one of them is
not-a-number. -/
def compare? : Value → Value → Option Ordering
  | .number x, .number y => x.compare? y
  | .text s, .text t => some (Text.order s t)
  | _, _ => none

variable {a b c : Value}

/-- Comparable values are two texts or two numbers. -/
theorem Comparable.cases (h : Comparable a b) :
    (∃ s t, a = .text s ∧ b = .text t) ∨ ∃ x y, a = .number x ∧ b = .number y := by
  obtain ⟨hkind, hboolean⟩ := h
  cases a <;> cases b <;> try cases hkind
  case text.text s t => exact .inl ⟨s, t, rfl, rfl⟩
  case number.number x y => exact .inr ⟨x, y, rfl, rfl⟩
  case boolean.boolean p q => exact absurd rfl hboolean

theorem Comparable.symm (h : Comparable a b) : Comparable b a := ⟨h.1.symm, h.1 ▸ h.2⟩

theorem compare?_swap (a b : Value) : b.compare? a = (a.compare? b).map Ordering.swap := by
  cases a <;> cases b
  case number.number x y => exact Binary64.compare?_swap x y
  case text.text s t => exact congrArg some (Text.order_swap s t)
  all_goals rfl

theorem compare?_trans (hab : a.compare? b = some .lt) (hbc : b.compare? c = some .lt) :
    a.compare? c = some .lt := by
  cases a <;> cases b <;> try cases hab
  all_goals cases c <;> try cases hbc
  case number.number.number x y z => exact Binary64.compare?_trans hab hbc
  case text.text.text s t u =>
    exact congrArg some (Text.order_trans (Option.some.inj hab) (Option.some.inj hbc))

/-- Between comparable values only not-a-number prevents a comparison. -/
theorem Comparable.compare?_eq_none (h : Comparable a b) :
    a.compare? b = none ↔ a = .number .nan ∨ b = .number .nan := by
  rcases h.cases with ⟨s, t, rfl, rfl⟩ | ⟨x, y, rfl, rfl⟩
  · simp [compare?]
  · simpa [compare?] using Binary64.compare?_eq_none

/-- Comparable values are equal when their comparison says so. -/
theorem Comparable.equals_eq (h : Comparable a b) :
    a.equals b = (a.compare? b == some .eq) := by
  rcases h.cases with ⟨s, t, rfl, rfl⟩ | ⟨x, y, rfl, rfl⟩
  · rw [Bool.eq_iff_iff]
    simp [equals, compare?, Text.order_eq_eq]
  · rfl

end Value

/-! ### The tests -/

/-- The relation that a test for order stands for, between lists of code points in lexicographic
order. -/
def OrderingOp.Relates : OrderingOp → List Nat → List Nat → Prop
  | .greater, as, bs => bs < as
  | .greaterEqual, as, bs => bs ≤ as
  | .less, as, bs => as < bs
  | .lessEqual, as, bs => as ≤ bs

namespace Operator

open Value

/-- An operator **holds** between two values when it makes the boolean `TRUE` of them. -/
def Holds (op : Operator) (a b : Value) : Prop := op.apply a b = .ok (.boolean true)

/-- An operator **decides** two values when it makes a boolean of them. -/
def Decides (op : Operator) (a b : Value) : Prop := ∃ truth, op.apply a b = .ok (.boolean truth)

variable {a b c : Value}

theorem apply_ordering (op : OrderingOp) (h : Comparable a b) :
    (ordering op).apply a b = .ok (.boolean ((a.compare? b).any op.holds)) := by
  rcases h.cases with ⟨s, t, rfl, rfl⟩ | ⟨x, y, rfl, rfl⟩ <;> rfl

theorem apply_equality (op : EqualityOp) (h : Comparable a b) :
    (equality op).apply a b = .ok (.boolean (op.holds (a.compare? b == some .eq))) := by
  rw [← h.equals_eq]
  exact if_pos h.1

theorem holds_ordering {op : OrderingOp} (h : Comparable a b) :
    (ordering op).Holds a b ↔ (a.compare? b).any op.holds = true := by
  simp [Holds, apply_ordering op h]

theorem holds_equality {op : EqualityOp} (h : Comparable a b) :
    (equality op).Holds a b ↔ op.holds (a.compare? b == some .eq) = true := by
  simp [Holds, apply_equality op h]

/-- A value that is less than another is comparable with it. -/
theorem comparable_of_less (h : (ordering .less).Holds a b) : Comparable a b := by
  cases a <;> cases b <;> first | cases h | exact ⟨rfl, Kind.noConfusion⟩

/-- **Texts are ordered by their code points**, although their bytes are compared. -/
theorem holds_texts (op : OrderingOp) (s t : String) :
    (ordering op).Holds (.text s) (.text t) ↔
      op.Relates (Text.codePoints s) (Text.codePoints t) := by
  have hst : Text.order s t = .lt ↔ Text.codePoints s < Text.codePoints t := Text.order_eq_lt
  have hts : Text.order t s = .lt ↔ Text.codePoints t < Text.codePoints s := Text.order_eq_lt
  rw [Text.order_swap s t] at hts
  have hcomparable : Comparable (.text s) (.text t) := ⟨rfl, Kind.noConfusion⟩
  rw [holds_ordering hcomparable]
  cases op <;> simp only [OrderingOp.Relates, ← not_lt, ← hst, ← hts, compare?] <;>
    cases Text.order s t <;> decide

/-! ### One consistent order -/

/-- The laws of an order for the tests between two values, of which the equality is that of the test
and not-a-number stands apart. -/
structure OrderedBy (a b : Value) : Prop where
  /-- All tests have an answer. -/
  decides : ∀ op : Operator, op.level = .relational → op.Decides a b
  less_iff : (ordering .less).Holds a b ↔ (ordering .greater).Holds b a
  lessEqual_iff : (ordering .lessEqual).Holds a b ↔
    (ordering .less).Holds a b ∨ (equality .equal).Holds a b
  greaterEqual_iff : (ordering .greaterEqual).Holds a b ↔ (ordering .lessEqual).Holds b a
  notEqual_iff : (equality .notEqual).Holds a b ↔ ¬ (equality .equal).Holds a b
  less_trans : ∀ c, (ordering .less).Holds a b → (ordering .less).Holds b c →
    (ordering .less).Holds a c
  /-- Of less, equal and greater exactly one holds. -/
  trichotomy : a ≠ .number .nan → b ≠ .number .nan →
    ((ordering .less).Holds a b ∧ ¬ (equality .equal).Holds a b ∧
        ¬ (ordering .greater).Holds a b) ∨
      (¬ (ordering .less).Holds a b ∧ (equality .equal).Holds a b ∧
        ¬ (ordering .greater).Holds a b) ∨
      (¬ (ordering .less).Holds a b ∧ ¬ (equality .equal).Holds a b ∧
        (ordering .greater).Holds a b)
  /-- Beside not-a-number only the test for inequality holds. -/
  nan : a = .number .nan ∨ b = .number .nan →
    (∀ op, ¬ (ordering op).Holds a b) ∧ ¬ (equality .equal).Holds a b ∧
      (equality .notEqual).Holds a b

/-- **Comparable values are in one order.** -/
theorem orderedBy_of_comparable (h : Comparable a b) : OrderedBy a b where
  decides op hop := by
    cases op with
    | arithmetic op => cases op <;> cases hop
    | concat => cases hop
    | equality op => exact ⟨_, apply_equality op h⟩
    | ordering op => exact ⟨_, apply_ordering op h⟩
  less_iff := by
    rw [holds_ordering h, holds_ordering h.symm, compare?_swap a b]
    rcases a.compare? b with _ | _ | _ | _ <;> decide
  lessEqual_iff := by
    rw [holds_ordering h, holds_ordering h, holds_equality h]
    rcases a.compare? b with _ | _ | _ | _ <;> decide
  greaterEqual_iff := by
    rw [holds_ordering h, holds_ordering h.symm, compare?_swap a b]
    rcases a.compare? b with _ | _ | _ | _ <;> decide
  notEqual_iff := by
    rw [holds_equality h, holds_equality h]
    rcases a.compare? b with _ | _ | _ | _ <;> decide
  less_trans c hab hbc := by
    have hac : Comparable a c := ⟨h.1.trans (comparable_of_less hbc).1, h.2⟩
    have hlt : ∀ o : Option Ordering, o.any OrderingOp.less.holds = true ↔ o = some .lt := by
      rintro (_ | _ | _ | _) <;> decide
    rw [holds_ordering h, hlt] at hab
    rw [holds_ordering (comparable_of_less hbc), hlt] at hbc
    rw [holds_ordering hac, hlt]
    exact compare?_trans hab hbc
  trichotomy ha hb := by
    have hsome : a.compare? b ≠ none := fun hnone =>
      (h.compare?_eq_none.mp hnone).elim ha hb
    rw [holds_ordering h, holds_ordering h, holds_equality h]
    rcases hab : a.compare? b with _ | _ | _ | _
    · exact absurd hab hsome
    all_goals decide
  nan hnan := by
    have hnone : a.compare? b = none := h.compare?_eq_none.mpr hnan
    refine ⟨fun op => ?_, ?_, ?_⟩
    · rw [holds_ordering h, hnone]
      exact Bool.false_ne_true
    · rw [holds_equality h, hnone]
      decide
    · rw [holds_equality h, hnone]
      decide

/-- **The relational operators form one consistent order.** The tests for order decide two texts by
the lexicographic order of their code points. On two texts or two numbers all six tests obey the
laws of one order, with not-a-number beside it. The tests for equality have an answer for all values
of one kind and the tests for order for those of them that are no booleans; all else is one error,
with the symbol of the test. -/
theorem relations_consistent :
    (∀ (op : OrderingOp) (s t : String), (ordering op).Holds (.text s) (.text t) ↔
      op.Relates (Text.codePoints s) (Text.codePoints t)) ∧
    (∀ a b, Comparable a b → OrderedBy a b) ∧
    (∀ (op : EqualityOp) (a b : Value),
      if a.kind = b.kind then (equality op).Decides a b
      else (equality op).apply a b = .error (.mismatchedOperands op.symbol a.kind b.kind)) ∧
    (∀ (op : OrderingOp) (a b : Value),
      if a.kind = b.kind ∧ a.kind ≠ .boolean then (ordering op).Decides a b
      else (ordering op).apply a b = .error (.mismatchedOperands op.symbol a.kind b.kind)) := by
  refine ⟨holds_texts, fun a b => orderedBy_of_comparable, fun op a b => ?_, fun op a b => ?_⟩
  · split
    · next hkind => exact ⟨_, if_pos hkind⟩
    · next hkind => exact if_neg hkind
  · split
    · next h => exact ⟨_, apply_ordering op h⟩
    · next h =>
      cases a <;> cases b <;> first | rfl | exact absurd ⟨rfl, Kind.noConfusion⟩ h

/-- The texts differ in characters of two and of three bytes, and a zero is compared with the other
one. -/
theorem relations_consistent_accented :
    (ordering .less).Holds (.text "zé") (.text "z€") ∧
      Comparable (.number (.zero true)) (.number (.zero false)) ∧
      (ordering .lessEqual).Holds (.number (.zero true)) (.number (.zero false)) := by
  obtain ⟨htexts, hordered, -, -⟩ := relations_consistent
  have hzeros : Comparable (.number (.zero true)) (.number (.zero false)) := by decide
  have hequal : (equality .equal).Holds (.number (.zero true)) (.number (.zero false)) := rfl
  have hpoints : Text.codePoints "zé" < Text.codePoints "z€" := by decide
  exact ⟨(htexts .less "zé" "z€").mpr hpoints, hzeros,
    (hordered _ _ hzeros).lessEqual_iff.mpr (.inr hequal)⟩

end Operator

end SheetFormula
