import SheetFormula.Binary64.Elementary
import SheetFormula.Proofs.Binary64.ReadBack

/-!
# The sign of a zero

Two numbers are **alike** when they have one place on the line, or none: when they are numerically
equal, or both not-a-number. All that alike numbers can differ in is the sign of a zero
(`Binary64.alike_iff_eq`).

From alike numbers the operations make alike ones, as the sign of a zero comes through to nothing
but the sign of a zero. The one exception is the power of a zero to a negative odd whole number,
which is infinite under the sign of the zero (`Binary64.Alike.pow`).
-/

namespace SheetFormula

namespace Binary64

/-! ### Alike numbers -/

/-- Two numbers are **alike** if they have the same place on the line, or both none. -/
def Alike (x y : Binary64) : Prop := x.rank = y.rank

variable {x x' y y' : Binary64}

theorem Alike.refl (x : Binary64) : Alike x x := rfl

theorem Alike.trans {z : Binary64} (h : Alike x y) (h' : Alike y z) : Alike x z :=
  Eq.trans h h'

@[simp]
theorem rank_zero (negative : Bool) : (zero negative).rank = some 0 := by
  cases negative <;> rfl

theorem alike_zero (a b : Bool) : Alike (zero a) (zero b) :=
  (rank_zero a).trans (rank_zero b).symm

theorem eq_nan_of_rank (h : x.rank = none) : x = .nan := by
  cases x with
  | nan => rfl
  | infinite _ | finite _ _ _ => cases h

/-- Alike numbers are equal numbers, unless they are none. -/
theorem alike_iff : x.Alike y ↔ x.equals y = true ∨ (x = .nan ∧ y = .nan) := by
  unfold Alike equals compare?
  cases hx : x.rank with
  | none =>
    obtain rfl := eq_nan_of_rank hx
    cases hy : y.rank with
    | none => simp [eq_nan_of_rank hy]
    | some b =>
      have hne : y ≠ .nan := fun h => by cases (h ▸ hy : rank .nan = some b)
      simp [hne]
  | some a =>
    have hne : x ≠ .nan := fun h => by cases (h ▸ hx : rank .nan = some a)
    cases hy : y.rank with
    | none => simp [hne]
    | some b => simp [hne]

/-- The place of a finite number lies before those of the infinities. -/
theorem rank_finite_ne_infinite (a b : Bool) {units : Nat} (h : Representable units) :
    (finite a units h).rank ≠ (infinite b).rank := by
  intro hrank
  have hunits := h.1
  have hplace := Option.some.inj hrank
  split at hplace <;> split at hplace <;> omega

theorem rank_infinite_inj {a b : Bool} (h : (infinite a).rank = (infinite b).rank) : a = b := by
  have hpos : 0 < unitsLimit := representable_zero.1
  by_contra hne
  obtain rfl := Bool.eq_not_of_ne hne
  -- an infinity would stand on both sides of zero
  have hplace : (unitsLimit : Int) = -unitsLimit := by
    cases b with
    | false => exact (Option.some.inj h).symm
    | true => exact Option.some.inj h
  omega

/-- Finite numbers in one place have one count of units, and a sign that only zero leaves open. -/
theorem rank_finite_inj {a b : Bool} {u v : Nat} {hu : Representable u} {hv : Representable v}
    (h : (finite a u hu).rank = (finite b v hv).rank) : u = v ∧ (u = 0 ∨ a = b) := by
  have hplace := Option.some.inj h
  cases a <;> cases b <;> simp at hplace ⊢ <;> omega

/-- **Only zeros are alike and different.** -/
theorem alike_iff_eq : x.Alike y ↔ x = y ∨ ∃ a b, x = zero a ∧ y = zero b := by
  constructor
  · intro h
    cases x with
    | nan => exact .inl (eq_nan_of_rank h.symm).symm
    | infinite a =>
      cases y with
      | nan => cases h
      | infinite b => exact .inl (congrArg infinite (rank_infinite_inj h))
      | finite b v hv => exact absurd h.symm (rank_finite_ne_infinite b a hv)
    | finite a u hu =>
      cases y with
      | nan => cases h
      | infinite b => exact absurd h (rank_finite_ne_infinite a b hu)
      | finite b v hv =>
        obtain ⟨rfl, rfl | rfl⟩ := rank_finite_inj h
        · exact .inr ⟨a, b, rfl, rfl⟩
        · exact .inl rfl
  · rintro (rfl | ⟨a, b, rfl, rfl⟩)
    · exact .refl x
    · exact alike_zero a b

/-! ### Operations -/

/-- What holds of a number and a zero under both signs holds of alike numbers. -/
theorem Alike.congr {op : Binary64 → Binary64 → Binary64}
    (hleft : ∀ a b y, Alike (op (zero a) y) (op (zero b) y))
    (hright : ∀ a b x, Alike (op x (zero a)) (op x (zero b))) (hx : Alike x x') (hy : Alike y y') :
    Alike (op x y) (op x' y') := by
  have hfirst : Alike (op x y) (op x' y) := by
    rcases alike_iff_eq.mp hx with rfl | ⟨a, b, rfl, rfl⟩
    · exact .refl _
    · exact hleft a b y
  have hsecond : Alike (op x' y) (op x' y') := by
    rcases alike_iff_eq.mp hy with rfl | ⟨a, b, rfl, rfl⟩
    · exact .refl _
    · exact hright a b x'
  exact hfirst.trans hsecond

theorem ofUnits_zero (negative : Bool) : ofUnits negative 0 = zero negative :=
  ofUnits_of_representable negative representable_zero

/-- A ratio of zero is a zero under its sign. -/
theorem ofUnitRatio_zero (negative : Bool) (den : Nat) :
    ofUnitRatio negative 0 den = zero negative := by
  have hnearest : nearestUnits 0 den = 0 := by
    have hround : ∀ n, roundDiv 0 n = 0 := fun n => by
      unfold roundDiv
      rw [Nat.zero_mod, Nat.zero_div]
      split <;> omega
    rw [nearestUnits, hround, Nat.zero_mul]
  rw [ofUnitRatio, hnearest, ofUnits_zero]

theorem signed_zero (negative : Bool) : signed negative 0 = 0 := by
  cases negative <;> rfl

/-- The sign that is held ready for a zero matters to a zero only. -/
theorem alike_ofSignedUnits (units : Int) (a b : Bool) :
    Alike (ofSignedUnits units a) (ofSignedUnits units b) := by
  unfold ofSignedUnits
  by_cases hunits : units = 0
  · subst hunits
    rw [if_pos rfl, if_pos rfl, Int.natAbs_zero, ofUnitRatio_zero, ofUnitRatio_zero]
    exact alike_zero a b
  · rw [if_neg hunits, if_neg hunits]
    exact .refl _

theorem add_comm (x y : Binary64) : x.add y = y.add x := by
  cases x <;> cases y <;> simp only [add]
  case infinite.infinite a b => cases a <;> cases b <;> rfl
  case finite.finite a u _ b v _ => rw [Int.add_comm, Bool.and_comm]

theorem mul_comm (x y : Binary64) : x.mul y = y.mul x := by
  cases x <;> cases y <;> simp only [mul, Bool.xor_comm, Nat.mul_comm]

theorem alike_add_zero (a b : Bool) (y : Binary64) :
    Alike ((zero a).add y) ((zero b).add y) := by
  cases y with
  | nan | infinite c => exact .refl _
  | finite c v _ =>
    simp only [zero, add, signed_zero]
    exact alike_ofSignedUnits _ _ _

theorem Alike.add (hx : Alike x x') (hy : Alike y y') : Alike (x.add y) (x'.add y') := by
  refine Alike.congr alike_add_zero (fun a b x => ?_) hx hy
  rw [add_comm x, add_comm x]
  exact alike_add_zero a b x

theorem Alike.neg (hx : Alike x x') : Alike x.neg x'.neg := by
  rcases alike_iff_eq.mp hx with rfl | ⟨a, b, rfl, rfl⟩
  · exact .refl _
  · exact alike_zero (!a) (!b)

theorem Alike.sub (hx : Alike x x') (hy : Alike y y') : Alike (x.sub y) (x'.sub y') :=
  hx.add hy.neg

theorem alike_zero_mul (a b : Bool) (y : Binary64) :
    Alike ((zero a).mul y) ((zero b).mul y) := by
  cases y with
  | nan | infinite c => exact .refl _
  | finite c v _ =>
    simp only [zero, mul, Nat.zero_mul, ofUnitRatio_zero]
    exact alike_zero _ _

theorem Alike.mul (hx : Alike x x') (hy : Alike y y') : Alike (x.mul y) (x'.mul y') := by
  refine Alike.congr alike_zero_mul (fun a b x => ?_) hx hy
  rw [mul_comm x, mul_comm x]
  exact alike_zero_mul a b x

theorem Alike.isZero_eq (hx : Alike x x') : x.isZero = x'.isZero := by
  rcases alike_iff_eq.mp hx with rfl | ⟨a, b, rfl, rfl⟩ <;> rfl

/-- By a zero there is no division, and so no sign that it could have. -/
theorem Alike.div (hx : Alike x x') (hy : Alike y y') (hzero : y.isZero = false) :
    Alike (x.div y) (x'.div y') := by
  rcases alike_iff_eq.mp hy with rfl | ⟨a, b, rfl, rfl⟩
  · rcases alike_iff_eq.mp hx with rfl | ⟨a, b, rfl, rfl⟩
    · exact .refl _
    · cases y with
      | nan => exact .refl _
      | infinite c => exact alike_zero _ _
      | finite c v _ =>
        simp only [zero, Binary64.div, ofRatio, Nat.zero_mul, ofUnitRatio_zero]
        split
        · exact .refl _
        · exact alike_zero _ _
  · cases hzero

theorem Alike.rem (hx : Alike x x') (hy : Alike y y') : Alike (x.rem y) (x'.rem y') := by
  refine Alike.congr (fun a b y => ?_) (fun a b x => ?_) hx hy
  · cases y with
    | nan => exact .refl _
    | infinite c => exact alike_zero a b
    | finite c v _ =>
      simp only [zero, Binary64.rem, Nat.zero_mod, ofUnits_zero]
      split
      · exact .refl _
      · exact alike_zero a b
  · cases x <;> exact .refl _

/-! ### Powers -/

/-- Whether a number is a **negative odd** whole number. -/
def NegativeOdd : Binary64 → Prop
  | .finite true units _ => isOddWhole units = true
  | _ => False

theorem pow_of_isZero (x : Binary64) (hy : y.isZero = true) : x.pow y = one false := by
  unfold pow
  rw [hy, Bool.true_or, if_pos rfl]

theorem zero_beq_one (a : Bool) : (zero a == one false) = false := by
  cases a <;> decide +kernel

theorem zero_pow_nan (a : Bool) : (zero a).pow nan = nan := by
  have hzero : nan.isZero = false := rfl
  unfold pow
  rw [hzero, zero_beq_one, Bool.or_false, if_neg Bool.false_ne_true]
  rfl

theorem zero_pow_infinite (a inverse : Bool) :
    (zero a).pow (infinite inverse) = powInfinite (compare 0 unitsPerOne) inverse := by
  have hzero : (infinite inverse).isZero = false := rfl
  unfold pow
  rw [hzero, zero_beq_one, Bool.or_false, if_neg Bool.false_ne_true]
  rfl

/-- The power of a zero to a finite number that is none. -/
theorem zero_pow_finite (a : Bool) {inverse : Bool} {v : Nat} {h : Representable v}
    (hzero : (finite inverse v h).isZero = false) :
    (zero a).pow (finite inverse v h) =
      if inverse then .infinite (a && isOddWhole v) else zero (a && isOddWhole v) := by
  unfold pow
  rw [hzero, zero_beq_one, Bool.or_false, if_neg Bool.false_ne_true]
  rfl

/-- The power of a zero to a negative odd number is infinite under the sign of the zero. -/
theorem zero_pow_of_negativeOdd (a : Bool) (hy : y.NegativeOdd) : (zero a).pow y = infinite a := by
  cases y with
  | nan | infinite _ => cases hy
  | finite inverse v h =>
    cases inverse with
    | false => cases hy
    | true =>
      have hodd : isOddWhole v = true := hy
      have hzero : (finite true v h).isZero = false := by
        cases v with
        | zero => exact absurd hodd (by decide +kernel)
        | succ v => rfl
      rw [zero_pow_finite a hzero, if_pos rfl, hodd, Bool.and_true]

/-- All other powers of the zeros are alike. -/
theorem alike_zero_pow (a b : Bool) (hy : ¬ y.NegativeOdd) :
    Alike ((zero a).pow y) ((zero b).pow y) := by
  cases y with
  | nan =>
    rw [zero_pow_nan, zero_pow_nan]
    exact .refl _
  | infinite inverse =>
    rw [zero_pow_infinite, zero_pow_infinite]
    exact .refl _
  | finite inverse v h =>
    cases hzero : (finite inverse v h).isZero with
    | true =>
      rw [pow_of_isZero _ hzero, pow_of_isZero _ hzero]
      exact .refl _
    | false =>
      rw [zero_pow_finite a hzero, zero_pow_finite b hzero]
      cases inverse with
      | false => exact alike_zero _ _
      | true =>
        have hodd : isOddWhole v = false := Bool.eq_false_iff.mpr hy
        rw [if_pos rfl, if_pos rfl, hodd, Bool.and_false, Bool.and_false]
        exact .refl _

/-- **Powers of alike numbers are alike**, except for those of the two zeros to a negative odd
number. -/
theorem Alike.pow (hx : Alike x x') (hy : Alike y y') :
    Alike (x.pow y) (x'.pow y') ∨
      ∃ a, x = zero a ∧ x' = zero (!a) ∧ y' = y ∧ y.NegativeOdd := by
  rcases alike_iff_eq.mp hy with rfl | ⟨a, b, rfl, rfl⟩
  · rcases alike_iff_eq.mp hx with rfl | ⟨a, b, rfl, rfl⟩
    · exact .inl (.refl _)
    · by_cases hodd : y.NegativeOdd
      · by_cases hab : b = a
        · subst hab
          exact .inl (.refl _)
        · obtain rfl := Bool.eq_not_of_ne hab
          exact .inr ⟨a, rfl, rfl, rfl, hodd⟩
      · exact .inl (alike_zero_pow a b hodd)
  · rw [pow_of_isZero x rfl, pow_of_isZero x' rfl]
    exact .inl (.refl _)

/-! ### Tests -/

theorem Alike.compare?_eq (hx : Alike x x') (hy : Alike y y') :
    x.compare? y = x'.compare? y' := by
  rw [compare?, compare?, hx, hy]

theorem Alike.equals_eq (hx : Alike x x') (hy : Alike y y') : x.equals y = x'.equals y' := by
  rw [equals, equals, hx.compare?_eq hy]

end Binary64

end SheetFormula
