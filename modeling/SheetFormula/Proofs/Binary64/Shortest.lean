import SheetFormula.Proofs.Binary64.Digits
import SheetFormula.Proofs.Binary64.Nearest

/-!
# The fewest digits

No decimal of fewer digits than the text of a number has is one that the number is nearest to
(`Binary64.exists_fewest`). The digits that are chosen stand on the coarsest grid that has some that
read back (`Binary64.readsBack_coarser`): a multiple on a coarser grid would lie to one side of the
number, and a neighbour of the number between them, which would read back too. And a decimal on the
same grid or a finer one that has fewer digits lies below a power of ten, which the chosen digits do
not, so that this power of ten lies between them; but it stands on a coarser grid.
-/

namespace SheetFormula

-- Powers are those of the core library, whatever else is imported.
attribute [local instance (2000)] instPowNat

namespace Binary64

variable {units digits scale n k : Nat} {j : Int}

/-! ### Steps that read back -/

/-- The steps in one: `10 ^ 1074`. -/
def stepsPerOne : Nat := 10 ^ (1074 : Nat)

theorem exists_stepsPerOne_eq : ∃ p : Nat, stepsPerOne = 10 ^ p ∧
    unitsPerOne = 2 ^ p ∧ stepsPerUnit = 5 ^ p := by
  have hone : stepsPerOne = 10 ^ (1074 : Nat) := by rw [stepsPerOne]
  have hunits : unitsPerOne = 2 ^ (1074 : Nat) := by rw [unitsPerOne]
  have hsteps : stepsPerUnit = 5 ^ (1074 : Nat) := by rw [stepsPerUnit]
  exact ⟨1074, hone, hunits, hsteps⟩

theorem stepsPerOne_pos : 0 < stepsPerOne := by
  obtain ⟨p, hp, -⟩ := exists_stepsPerOne_eq
  rw [hp]
  exact Nat.pow_pos (by decide)

theorem ofUnits_eq_finite_iff (h : Representable units) (u : Nat) :
    ofUnits false u = finite false units h ↔ u = units := by
  constructor
  · intro hu
    unfold ofUnits at hu
    split at hu
    · cases hu
      rfl
    · cases hu
  · rintro rfl
    exact ofUnits_of_representable false h

/-- **Steps read back** as the number that is nearest to them. -/
theorem isNearest_steps_iff (h : Representable units) (steps : Nat) :
    IsNearest (finite false units h) (steps / stepsPerOne) ↔
      nearestUnits steps stepsPerUnit = units := by
  have hunits : nearestUnits (steps * unitsPerOne) stepsPerOne =
      nearestUnits steps stepsPerUnit := by
    obtain ⟨p, hone, hunits, hsteps⟩ := exists_stepsPerOne_eq
    have hten : 10 ^ p = 2 ^ p * 5 ^ p := by rw [← Nat.mul_pow]
    rw [hone, hunits, hsteps, hten, Nat.mul_comm steps,
      nearestUnits_mul_left (Nat.two_pow_pos p)]
  rw [isNearest_iff stepsPerOne_pos rfl, ofRatio, ofUnitRatio, hunits, eq_comm,
    ofUnits_eq_finite_iff]

theorem readsBack_iff : readsBack units digits scale = true ↔
    nearestUnits (digits * 10 ^ scale) stepsPerUnit = units := by
  rw [readsBack, beq_iff_eq]

/-- Steps between two that read back do so too. -/
theorem nearestUnits_between {low middle high : Nat} (h : Representable units)
    (hlow : nearestUnits low stepsPerUnit = units) (hhigh : nearestUnits high stepsPerUnit = units)
    (hle : low ≤ middle) (hle' : middle ≤ high) : nearestUnits middle stepsPerUnit = units := by
  have hpos : (0 : ℚ) ≤ stepsPerOne := Nat.cast_nonneg _
  refine (isNearest_steps_iff h middle).mp ?_
  have hlow := (isNearest_steps_iff h low).mpr hlow
  have hhigh := (isNearest_steps_iff h high).mpr hhigh
  refine hlow.between hhigh ?_ ?_
  · exact div_le_div_of_nonneg_right (Nat.cast_le.mpr hle) hpos
  · exact div_le_div_of_nonneg_right (Nat.cast_le.mpr hle') hpos

/-! ### The coarsest grid -/

theorem nearer?_eq_none {lowReads highReads lowIsNearer : Bool} {low : Nat}
    (h : nearer? lowReads highReads lowIsNearer low = none) :
    lowReads = false ∧ highReads = false := by
  cases lowReads <;> cases highReads <;> cases lowIsNearer <;> cases h <;> exact ⟨rfl, rfl⟩

/-- **No multiple reads back on a grid that offers none**, as the number itself would lie between it
and a neighbour. -/
theorem readsBack_of_neighbour?_eq_none (h : Representable units)
    (hnone : neighbour? units scale = none) (digits : Nat) :
    readsBack units digits scale = false := by
  obtain ⟨hlow, hhigh⟩ := nearer?_eq_none hnone
  have hexact := readsBack_iff.mp (readsBack_decimalSteps h)
  rw [Nat.pow_zero, Nat.mul_one] at hexact
  have hpow : 0 < 10 ^ scale := Nat.pow_pos (by decide)
  by_contra hreads
  have hdigits := readsBack_iff.mp (Bool.eq_true_of_not_eq_false hreads)
  rcases Nat.lt_or_ge (decimalSteps units / 10 ^ scale) digits with hlt | hle
  · have hreads : readsBack units (decimalSteps units / 10 ^ scale + 1) scale = true :=
      readsBack_iff.mpr (nearestUnits_between h hexact hdigits
        (Nat.le_of_lt ((Nat.div_lt_iff_lt_mul hpow).mp (Nat.lt_succ_self _)))
        (Nat.mul_le_mul_right _ hlt))
    exact Bool.false_ne_true (hhigh.symm.trans hreads)
  · have hreads : readsBack units (decimalSteps units / 10 ^ scale) scale = true :=
      readsBack_iff.mpr (nearestUnits_between h hdigits hexact (Nat.mul_le_mul_right _ hle)
        (Nat.div_mul_le_self ..))
    exact Bool.false_ne_true (hlow.symm.trans hreads)

/-- Coarser grids than the one that is taken offer nothing. -/
theorem offer_eq_none_of_lt {offer : Nat → Option Nat} {exact top : Nat}
    (hcoarser : (coarsest offer exact top).2 < scale) (htop : scale ≤ top) :
    offer scale = none := by
  induction top with
  | zero => omega
  | succ top ih =>
    rw [coarsest] at hcoarser
    split at hcoarser
    · omega
    · next hnone =>
      rcases Nat.lt_or_eq_of_le htop with hlt | rfl
      · exact ih hcoarser (Nat.le_of_lt_succ hlt)
      · exact hnone

theorem nearer?_le {lowReads highReads lowIsNearer : Bool} {low : Nat}
    (h : nearer? lowReads highReads lowIsNearer low = some digits) : digits ≤ low + 1 := by
  rcases nearer?_eq_some h with ⟨rfl, -⟩ | ⟨rfl, -⟩
  · exact Nat.le_succ _
  · exact Nat.le_refl _

/-- Digits are **below the next** ones when they are at most the upper neighbour of some steps. -/
def BelowNext (steps digits scale : Nat) : Prop := digits ≤ steps / 10 ^ scale + 1

theorem belowNext_zero (steps : Nat) : BelowNext steps steps 0 := by
  rw [BelowNext, Nat.pow_zero, Nat.div_one]
  exact Nat.le_succ _

theorem belowNext_neighbour? (h : neighbour? units scale = some digits) :
    BelowNext (decimalSteps units) digits scale := by
  rw [neighbour?] at h
  rw [BelowNext]
  exact nearer?_le h

theorem belowNext_shortest (units : Nat) :
    BelowNext (decimalSteps units) (shortest units).1 (shortest units).2 :=
  have hoffer : ∀ digits scale, neighbour? units scale = some digits →
      BelowNext (decimalSteps units) digits scale := fun _ _ => belowNext_neighbour?
  coarsest_induction (belowNext_zero _) hoffer _

/-- Where there are several digits, the grid is not the coarsest one of all. -/
theorem BelowNext.succ_le_length {steps : Nat} (h : BelowNext steps digits scale)
    (hdigits : 10 ≤ digits) : scale + 1 ≤ (Nat.toDigits 10 steps).length := by
  have hquotient : 1 ≤ steps / 10 ^ scale := by
    unfold BelowNext at h
    omega
  have hsteps : 10 ^ scale ≤ steps := by
    rwa [Nat.le_div_iff_mul_le (Nat.pow_pos (by decide)), Nat.one_mul] at hquotient
  by_contra hnot
  have hlength := Nat.le_of_lt_succ (Nat.not_le.mp hnot)
  have hpos : 0 < scale :=
    Nat.lt_of_lt_of_le (List.length_pos_iff.mpr Nat.toDigits_ne_nil) hlength
  have hlt := (Nat.length_toDigits_le_iff (by decide) hpos).mp hlength
  omega

theorem neighbour?_eq_none_of_lt (hcoarser : (shortest units).2 < scale)
    (htop : scale ≤ (Nat.toDigits 10 (decimalSteps units)).length) :
    neighbour? units scale = none := by
  rw [shortest] at hcoarser
  exact offer_eq_none_of_lt hcoarser htop

/-- **On coarser grids nothing reads back**, unless there is one digit only. -/
theorem readsBack_coarser (h : Representable units) (hdigits : 10 ≤ (shortest units).1)
    (digits : Nat) : readsBack units digits ((shortest units).2 + 1) = false := by
  have htop := (belowNext_shortest units).succ_le_length hdigits
  exact readsBack_of_neighbour?_eq_none h (neighbour?_eq_none_of_lt (Nat.lt_add_one _) htop) digits

/-! ### The fewest digits -/

theorem ne_zero_of_isNearest (h : Representable units) (hne : units ≠ 0)
    (hnear : IsNearest (finite false units h) (k * 10 ^ j)) : k ≠ 0 := by
  rintro rfl
  have hzero : ((0 : Nat) : ℚ) * 10 ^ j = (0 : Nat) / (1 : Nat) := by simp
  rw [hzero, isNearest_iff Nat.one_pos rfl, ofRatio, ofUnitRatio, Nat.zero_mul, eq_comm,
    nearestUnits_one representable_zero, ofUnits_eq_finite_iff] at hnear
  exact hne hnear.symm

/-- The values of the multiples on a grid. -/
theorem exists_steps_div_eq : ∃ p : Nat, ∀ c e : Nat,
    ((c * 10 ^ e : Nat) : ℚ) / stepsPerOne = c * 10 ^ ((e : Int) - p) := by
  obtain ⟨p, hone, -⟩ := exists_stepsPerOne_eq
  refine ⟨p, fun c e => ?_⟩
  rw [hone, zpow_sub₀ (by norm_num), zpow_natCast, zpow_natCast, mul_div_assoc']
  push_cast
  rfl

/-- **No decimal with fewer digits reads back.** If a decimal of at most `n` digits does, then there
are at most `n` digits that are taken. -/
theorem shortest_lt_pow (h : Representable units) (hne : units ≠ 0) (hk : k < 10 ^ n)
    (hnear : IsNearest (finite false units h) (k * 10 ^ j)) : (shortest units).1 < 10 ^ n := by
  have hpos := Nat.pos_of_ne_zero (ne_zero_of_isNearest h hne hnear)
  obtain ⟨m, rfl⟩ : ∃ m, n = m + 1 := by
    refine Nat.exists_eq_add_one_of_ne_zero ?_
    rintro rfl
    omega
  by_contra hmany
  have hdigits := Nat.le_of_not_lt hmany
  have hten : 10 ≤ 10 ^ (m + 1) := Nat.le_self_pow (Nat.succ_ne_zero m) 10
  have hreads := (isNearest_steps_iff h _).mpr (readsBack_iff.mp (readsBack_shortest h))
  have hcoarser (c : Nat) : ¬ IsNearest (finite false units h)
      ((c * 10 ^ ((shortest units).2 + 1) : Nat) / stepsPerOne) := fun hc =>
    Bool.false_ne_true ((readsBack_coarser h (Nat.le_trans hten hdigits) c).symm.trans
      (readsBack_iff.mpr ((isNearest_steps_iff h _).mp hc)))
  generalize (shortest units).1 = digits at hdigits hreads
  generalize (shortest units).2 = scale at hreads hcoarser
  obtain ⟨p, hvalue⟩ := exists_steps_div_eq
  have hpow (e : Int) : (0 : ℚ) < 10 ^ e := zpow_pos (by norm_num) e
  rcases Int.lt_or_le ((scale : Int) - p) j with hcoarse | hfine
  · -- the decimal itself stands on a coarser grid
    obtain ⟨t, ht⟩ := Int.eq_ofNat_of_zero_le (Int.sub_nonneg_of_le hcoarse)
    refine hcoarser (k * 10 ^ t) ?_
    have hj : j = (t : Int) + (((scale + 1 : Nat) : Int) - p) := by omega
    have hsame : ((k * 10 ^ t * 10 ^ (scale + 1) : Nat) : ℚ) / stepsPerOne = k * 10 ^ j := by
      rw [hvalue, hj, zpow_add₀ (by norm_num), zpow_natCast, ← mul_assoc, Nat.cast_mul,
        Nat.cast_pow, Nat.cast_ofNat]
    rw [hsame]
    exact hnear
  · -- a power of ten, on a coarser grid, lies between the decimal and the digits
    have hmiddle : ((10 ^ m * 10 ^ (scale + 1) : Nat) : ℚ) / stepsPerOne =
        (10 ^ (m + 1) : Nat) * 10 ^ ((scale : Int) - p) := by
      rw [← Nat.pow_add, Nat.add_left_comm, Nat.add_comm scale, Nat.pow_add, hvalue]
    refine hcoarser (10 ^ m) (hnear.between hreads ?_ ?_)
    · rw [hmiddle]
      have hdecimal : (k : ℚ) ≤ (10 ^ (m + 1) : Nat) := Nat.cast_le.mpr (Nat.le_of_lt hk)
      have hplace : (10 : ℚ) ^ j ≤ 10 ^ ((scale : Int) - p) :=
        zpow_le_zpow_right₀ (by norm_num) hfine
      exact mul_le_mul hdecimal hplace (le_of_lt (hpow j)) (Nat.cast_nonneg _)
    · rw [hmiddle, hvalue]
      exact mul_le_mul_of_nonneg_right (Nat.cast_le.mpr hdigits) (le_of_lt (hpow _))

/-- Whether digits are the **fewest** that read back as a number: no decimal `k · 10 ^ j` of fewer
digits is one that the number is nearest to. -/
def Fewest (x : Binary64) (cs : List Char) : Prop :=
  ∀ (n k : Nat) (j : Int), k < 10 ^ n → x.IsNearest (k * 10 ^ j) → significantDigits cs ≤ n

/-- **The text of a finite number is a literal of it with the fewest digits.** -/
theorem exists_fewest (h : Representable units) :
    ∃ whole fraction, magnitudeText units = literal whole fraction ∧
      LiteralDigits whole fraction ∧ ofDigits whole fraction = finite false units h ∧
      (finite false units h).Fewest (whole ++ fraction) := by
  obtain ⟨whole, fraction, htext, hdigits, hread, hvalue⟩ := exists_magnitudeText_digits h
  refine ⟨whole, fraction, htext, hdigits, hread, fun n k j hk hnear => ?_⟩
  split at hvalue
  · have hzero : digitsValue (whole ++ fraction) = 0 * 10 ^ 0 := by rw [hvalue, Nat.zero_mul]
    exact significantDigits_le hdigits.2 hzero (Nat.pow_pos (by decide))
  · next hne => exact significantDigits_le hdigits.2 hvalue (shortest_lt_pow h hne hk hnear)

end Binary64

end SheetFormula
