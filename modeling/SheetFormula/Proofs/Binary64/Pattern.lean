import SheetFormula.Proofs.Binary64.Whole

/-!
# Bit patterns

The 64 bits of a number are its sign, eleven bits of an exponent and 52 bits of a fraction
(`Binary64.bits`). A count of units determines the last two fields, which together are its
`pattern`: the shift of its window is the exponent, and the digits in the window are the fraction,
with a leading one that is carried into the exponent. Conversely the fields stand for a count of
units (`unitsOf`), and so the finite numbers and the patterns without an exponent of ones are in
correspondence (`Binary64.bits_finite`, `Binary64.exists_fields`).

Next to each other stand the counts of consecutive patterns: `pattern_mul_two_pow`.
-/

namespace SheetFormula

-- Powers are those of the core library, whatever else is imported.
attribute [local instance (2000)] instPowNat

variable {a s units exponent fraction : Nat}

/-- Whether a count of units has no binary digit below its window. It may lie beyond the range. -/
def FitsWindow (units : Nat) : Prop := units % 2 ^ windowShift units = 0

instance : DecidablePred FitsWindow := fun units =>
  inferInstanceAs (Decidable (units % 2 ^ windowShift units = 0))

/-- The exponent and the fraction of a count of units, as one number. -/
def pattern (units : Nat) : Nat :=
  windowShift units * 2 ^ (52 : Nat) + units / 2 ^ windowShift units

/-- The count of units that an exponent and a fraction stand for. The least exponent has no leading
one. -/
def unitsOf (exponent fraction : Nat) : Nat :=
  if exponent = 0 then fraction else (2 ^ (52 : Nat) + fraction) * 2 ^ (exponent - 1)

/-! ### Windows -/

theorem fitsWindow_unitsLimit : FitsWindow unitsLimit := by decide +kernel

theorem pattern_unitsLimit : pattern unitsLimit = 2047 * 2 ^ (52 : Nat) := by decide +kernel

/-- A window of 53 digits that is full, or that cannot lie lower. -/
theorem windowShift_mul_two_pow (hlow : 2 ^ (52 : Nat) ≤ a ∨ s = 0) (hhigh : a < 2 ^ (53 : Nat)) :
    windowShift (a * 2 ^ s) = s := by
  rcases Nat.eq_zero_or_pos a with rfl | hpos
  · rw [Nat.zero_mul]
    exact (hlow.resolve_left (by decide)).symm
  · have hpow : 0 < 2 ^ s := Nat.two_pow_pos s
    have hne : a * 2 ^ s ≠ 0 := Nat.ne_of_gt (Nat.mul_pos hpos hpow)
    have hlt : (a * 2 ^ s).log2 < 53 + s := by
      rw [Nat.log2_lt hne, Nat.pow_add]
      exact Nat.mul_lt_mul_of_pos_right hhigh hpow
    unfold windowShift
    rcases hlow with hlow | rfl
    · have hle : 52 + s ≤ (a * 2 ^ s).log2 := by
        rw [Nat.le_log2 hne, Nat.pow_add]
        exact Nat.mul_le_mul_right _ hlow
      omega
    · omega

/-- The digits of any number in its window. -/
theorem window_digits (n : Nat) :
    n / 2 ^ windowShift n < 2 ^ (53 : Nat) ∧
      (2 ^ (52 : Nat) ≤ n / 2 ^ windowShift n ∨ windowShift n = 0) := by
  have hpow : 0 < 2 ^ windowShift n := Nat.two_pow_pos _
  constructor
  · rw [Nat.div_lt_iff_lt_mul hpow, ← Nat.pow_add]
    exact Nat.lt_of_lt_of_le Nat.lt_log2_self
      (Nat.pow_le_pow_right (by decide) (by unfold windowShift; omega))
  · rcases Nat.eq_zero_or_pos (windowShift n) with hzero | hpos
    · exact .inr hzero
    · have hlog : n.log2 = 52 + windowShift n := by
        unfold windowShift at *
        omega
      have hne : n ≠ 0 := by
        rintro rfl
        rw [Nat.log2_zero] at hlog
        omega
      rw [Nat.le_div_iff_mul_le hpow, ← Nat.pow_add, ← hlog]
      exact .inl (Nat.log2_self_le hne)

/-- Digits that outgrow their window by one fill the next one. -/
theorem exists_window_mul_two_pow (hlow : 2 ^ (52 : Nat) ≤ a ∨ s = 0)
    (hhigh : a ≤ 2 ^ (53 : Nat)) :
    ∃ b t, a * 2 ^ s = b * 2 ^ t ∧ windowShift (b * 2 ^ t) = t ∧
      t * 2 ^ (52 : Nat) + b = s * 2 ^ (52 : Nat) + a := by
  rcases Nat.lt_or_eq_of_le hhigh with hlt | rfl
  · exact ⟨a, s, rfl, windowShift_mul_two_pow hlow hlt, rfl⟩
  · refine ⟨2 ^ (52 : Nat), s + 1, ?_,
      windowShift_mul_two_pow (.inl (Nat.le_refl _)) (by decide), by omega⟩
    rw [Nat.pow_succ 2 s, ← Nat.mul_assoc, Nat.mul_right_comm]

theorem fitsWindow_mul_two_pow (hlow : 2 ^ (52 : Nat) ≤ a ∨ s = 0) (hhigh : a ≤ 2 ^ (53 : Nat)) :
    FitsWindow (a * 2 ^ s) := by
  obtain ⟨b, t, hwindow, hshift, -⟩ := exists_window_mul_two_pow hlow hhigh
  rw [FitsWindow, hwindow, hshift, Nat.mul_mod_left]

/-- **Counts with consecutive patterns.** The digits in a window are counted on by the pattern, also
where they outgrow the window and the next one begins. -/
theorem pattern_mul_two_pow (hlow : 2 ^ (52 : Nat) ≤ a ∨ s = 0) (hhigh : a ≤ 2 ^ (53 : Nat)) :
    pattern (a * 2 ^ s) = s * 2 ^ (52 : Nat) + a := by
  obtain ⟨b, t, hwindow, hshift, hpattern⟩ := exists_window_mul_two_pow hlow hhigh
  rw [hwindow, pattern, hshift, Nat.mul_div_cancel _ (Nat.two_pow_pos t), hpattern]

/-! ### Fields -/

/-- The digits and their place in a count of units with the given fields. -/
theorem exists_unitsOf_eq (exponent : Nat) (hfraction : fraction < 2 ^ (52 : Nat)) :
    ∃ a s, unitsOf exponent fraction = a * 2 ^ s ∧ (2 ^ (52 : Nat) ≤ a ∨ s = 0) ∧
      a < 2 ^ (53 : Nat) ∧ s ≤ exponent - 1 ∧
      s * 2 ^ (52 : Nat) + a = exponent * 2 ^ (52 : Nat) + fraction := by
  unfold unitsOf
  split
  · next hzero =>
    subst hzero
    exact ⟨fraction, 0, (Nat.mul_one _).symm, .inr rfl, by omega, Nat.le_refl _, rfl⟩
  · next hpos =>
    exact ⟨2 ^ (52 : Nat) + fraction, exponent - 1, rfl, .inl (Nat.le_add_right ..), by omega,
      Nat.le_refl _, by omega⟩

/-- **A pattern consists of the fields.** -/
theorem pattern_unitsOf (hfraction : fraction < 2 ^ (52 : Nat)) :
    pattern (unitsOf exponent fraction) = exponent * 2 ^ (52 : Nat) + fraction := by
  obtain ⟨a, s, hunits, hlow, hhigh, -, hpattern⟩ := exists_unitsOf_eq exponent hfraction
  rw [hunits, pattern_mul_two_pow hlow (Nat.le_of_lt hhigh), hpattern]

theorem exists_unitsLimit_eq : ∃ k : Nat, unitsLimit = 2 ^ k ∧ k = 2098 := by
  have hlimit : unitsLimit = 2 ^ (2098 : Nat) := by rw [unitsLimit]
  exact ⟨2098, hlimit, rfl⟩

theorem representable_unitsOf (hexponent : exponent < 2047)
    (hfraction : fraction < 2 ^ (52 : Nat)) : Representable (unitsOf exponent fraction) := by
  obtain ⟨a, s, hunits, hlow, hhigh, hs, -⟩ := exists_unitsOf_eq exponent hfraction
  obtain ⟨k, hlimit, hk⟩ := exists_unitsLimit_eq
  rw [hunits]
  refine ⟨?_, fitsWindow_mul_two_pow hlow (Nat.le_of_lt hhigh)⟩
  calc a * 2 ^ s < 2 ^ (53 : Nat) * 2 ^ s := Nat.mul_lt_mul_of_pos_right hhigh (Nat.two_pow_pos s)
    _ = 2 ^ (53 + s) := (Nat.pow_add ..).symm
    _ ≤ 2 ^ k := Nat.pow_le_pow_right (by decide) (by omega)
    _ = unitsLimit := hlimit.symm

/-- **The fields of a representable count.** -/
theorem exists_fields (h : Representable units) :
    ∃ exponent < 2047, ∃ fraction < 2 ^ (52 : Nat), units = unitsOf exponent fraction := by
  obtain ⟨hhigh, hlow⟩ := window_digits units
  have hunits : units = units / 2 ^ windowShift units * 2 ^ windowShift units :=
    (Nat.div_mul_cancel (Nat.dvd_of_mod_eq_zero h.2)).symm
  generalize units / 2 ^ windowShift units = a at hhigh hlow hunits
  generalize windowShift units = s at hlow hunits
  rcases Nat.lt_or_ge a (2 ^ (52 : Nat)) with ha | ha
  · obtain rfl := hlow.resolve_left (Nat.not_le_of_lt ha)
    refine ⟨0, by decide, a, ha, ?_⟩
    rw [unitsOf, if_pos rfl, hunits, Nat.pow_zero, Nat.mul_one]
  · obtain ⟨k, hlimit, hk⟩ := exists_unitsLimit_eq
    have hlt : 2 ^ (52 + s) < 2 ^ k := by
      rw [Nat.pow_add, ← hlimit]
      exact Nat.lt_of_le_of_lt (Nat.mul_le_mul_right _ ha) (hunits ▸ h.1)
    have hs : 52 + s < k := (Nat.pow_lt_pow_iff_right (by decide)).mp hlt
    refine ⟨s + 1, by omega, a - 2 ^ (52 : Nat), by omega, ?_⟩
    rw [unitsOf, if_neg (Nat.succ_ne_zero s), Nat.add_sub_cancel' ha, Nat.add_sub_cancel, hunits]

theorem pattern_lt (h : Representable units) : pattern units < 2047 * 2 ^ (52 : Nat) := by
  obtain ⟨exponent, hexponent, fraction, hfraction, rfl⟩ := exists_fields h
  rw [pattern_unitsOf hfraction]
  omega

/-- Representable counts have different patterns. -/
theorem pattern_inj {units' : Nat} (h : Representable units) (h' : Representable units')
    (hpattern : pattern units = pattern units') : units = units' := by
  obtain ⟨exponent, -, fraction, hfraction, rfl⟩ := exists_fields h
  obtain ⟨exponent', -, fraction', hfraction', rfl⟩ := exists_fields h'
  rw [pattern_unitsOf hfraction, pattern_unitsOf hfraction'] at hpattern
  obtain rfl : exponent = exponent' := by omega
  obtain rfl : fraction = fraction' := by omega
  rfl

/-! ### Numbers -/

namespace Binary64

/-- The count of units of a number without its sign. An infinity stands where the finite numbers
end. -/
def magnitude : Binary64 → Nat
  | .nan => 0
  | .infinite _ => unitsLimit
  | .finite _ units _ => units

/-- The exponent and the fraction of a number. What is no number has one pattern here. -/
def fields : Binary64 → Nat
  | .nan => 2047 * 2 ^ (52 : Nat) + 2 ^ (51 : Nat)
  | .infinite _ => 2047 * 2 ^ (52 : Nat)
  | .finite _ units _ => pattern units

/-- The bit of the sign. -/
def signBit (negative : Bool) : Nat := if negative then 2 ^ (63 : Nat) else 0

/-- The 64 **bits** of a number. -/
def bits (x : Binary64) : Nat := signBit x.isNegative + x.fields

variable {x y : Binary64}

theorem fields_eq (hx : x ≠ nan) : x.fields = pattern x.magnitude := by
  cases x with
  | nan => exact absurd rfl hx
  | infinite negative => exact pattern_unitsLimit.symm
  | finite negative units h => rfl

theorem bits_mod_two (hx : x ≠ nan) : x.bits % 2 = pattern x.magnitude % 2 := by
  rw [bits, fields_eq hx]
  cases x.isNegative
  · rw [signBit, if_neg Bool.false_ne_true, Nat.zero_add]
  · rw [signBit, if_pos rfl]
    omega

theorem fitsWindow_magnitude (x : Binary64) : FitsWindow x.magnitude := by
  cases x with
  | nan => exact representable_zero.2
  | infinite negative => exact fitsWindow_unitsLimit
  | finite negative units h => exact h.2

theorem magnitude_le (x : Binary64) : x.magnitude ≤ unitsLimit := by
  cases x with
  | nan => exact Nat.zero_le _
  | infinite negative => exact Nat.le_refl _
  | finite negative units h => exact Nat.le_of_lt h.1

/-- A number is its sign with its magnitude. -/
theorem eq_of_magnitude (hx : x ≠ nan) (hy : y ≠ nan) (hsign : x.isNegative = y.isNegative)
    (h : x.magnitude = y.magnitude) : x = y := by
  cases x with
  | nan => exact absurd rfl hx
  | infinite negative =>
    cases y with
    | nan => exact absurd rfl hy
    | infinite negative' => exact congrArg infinite hsign
    | finite negative' units' h' => exact absurd h (Nat.ne_of_gt h'.1)
  | finite negative units hunits =>
    cases y with
    | nan => exact absurd rfl hy
    | infinite negative' => exact absurd h (Nat.ne_of_lt hunits.1)
    | finite negative' units' h' =>
      obtain rfl : negative = negative' := hsign
      obtain rfl : units = units' := h
      rfl

/-- Every pattern without an exponent of ones is that of a finite number. -/
theorem bits_finite (negative : Bool) (hexponent : exponent < 2047)
    (hfraction : fraction < 2 ^ (52 : Nat)) :
    (finite negative _ (representable_unitsOf hexponent hfraction)).bits =
      signBit negative + (exponent * 2 ^ (52 : Nat) + fraction) := by
  rw [bits, fields, pattern_unitsOf hfraction, isNegative]

/-- Without its sign a finite number has the other 63 bits. -/
theorem bits_abs (hx : x.isFinite = true) : x.abs.bits = x.bits % 2 ^ (63 : Nat) := by
  obtain ⟨negative, units, hunits, rfl⟩ := exists_finite hx
  have hlt := pattern_lt hunits
  have hbits : (finite negative units hunits).abs.bits = signBit false + pattern units := rfl
  have hsigned : (finite negative units hunits).bits = signBit negative + pattern units := rfl
  rw [hbits, hsigned]
  cases negative <;> simp only [signBit, if_true, Bool.false_eq_true, if_false] <;> omega

/-- **Finite numbers have different bits.** -/
theorem bits_inj (hx : x.isFinite = true) (hy : y.isFinite = true) (h : x.bits = y.bits) :
    x = y := by
  obtain ⟨negative, units, hunits, rfl⟩ := exists_finite hx
  obtain ⟨negative', units', hunits', rfl⟩ := exists_finite hy
  have hlt := pattern_lt hunits
  have hlt' := pattern_lt hunits'
  have hfields : signBit negative + pattern units = signBit negative' + pattern units' := h
  have hsign : negative = negative' := by
    unfold signBit at hfields
    cases negative <;> cases negative' <;>
      simp only [if_pos, Bool.false_eq_true, if_false] at hfields <;> first | rfl | omega
  subst hsign
  obtain rfl := pattern_inj hunits hunits' (Nat.add_left_cancel hfields)
  rfl

end Binary64

end SheetFormula
