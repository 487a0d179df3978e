import Mathlib.Tactic.Ring
import SheetFormula.Token.Scan

/-!
# Numbers are read back

The text of a finite number is read as this number again: rounding depends on a ratio only, not on
how it is written as a fraction (`nearestUnits_mul_left`), the digits that are chosen for a number
are ones that round to it (`Binary64.readsBack_shortest`), and the positional text of these digits
spells their value (`Binary64.exists_magnitudeText_eq`).
-/

namespace SheetFormula

-- Powers are those of the core library, whatever else is imported.
attribute [local instance (2000)] instPowNat

/-! ### Rounding of ratios -/

theorem roundDiv_mul_left {k : Nat} (hk : 0 < k) (num den : Nat) :
    roundDiv (k * num) (k * den) = roundDiv num den := by
  have hmod : 2 * (k * num % (k * den)) = k * (2 * (num % den)) := by
    rw [Nat.mul_mod_mul_left]
    ring
  unfold roundDiv
  rw [hmod, Nat.mul_div_mul_left _ _ hk]
  simp only [Nat.mul_lt_mul_left hk, Nat.mul_right_inj (Nat.ne_of_gt hk)]

/-- **Rounding depends on the ratio only.** -/
theorem nearestUnits_mul_left {k : Nat} (hk : 0 < k) (num den : Nat) :
    nearestUnits (k * num) (k * den) = nearestUnits num den := by
  unfold nearestUnits
  rw [Nat.mul_div_mul_left _ _ hk, Nat.mul_assoc k, roundDiv_mul_left hk]

/-- A representable count of units is its own rounding. -/
theorem nearestUnits_one {units : Nat} (h : Representable units) :
    nearestUnits units 1 = units := by
  have hmod := h.2
  unfold nearestUnits roundDiv
  rw [Nat.div_one, Nat.one_mul, hmod, if_pos (.inl (Nat.pow_pos (by decide)))]
  exact Nat.div_mul_cancel (Nat.dvd_of_mod_eq_zero hmod)

namespace Binary64

variable {units digits scale : Nat}

theorem ofUnits_of_representable (negative : Bool) (h : Representable units) :
    ofUnits negative units = .finite negative units h :=
  dif_pos h

/-! ### The digits that are chosen -/

/-- A neighbour is taken only if it reads back. -/
theorem nearer?_eq_some {lowReads highReads lowIsNearer : Bool} {low : Nat}
    (h : nearer? lowReads highReads lowIsNearer low = some digits) :
    (digits = low ∧ lowReads = true) ∨ (digits = low + 1 ∧ highReads = true) := by
  cases lowReads <;> cases highReads <;> cases lowIsNearer <;> cases h <;> simp

theorem readsBack_of_neighbour? (h : neighbour? units scale = some digits) :
    readsBack units digits scale = true := by
  unfold neighbour? at h
  rcases nearer?_eq_some h with ⟨rfl, hreads⟩ | ⟨rfl, hreads⟩ <;> exact hreads

theorem stepsPerUnit_pos : 0 < stepsPerUnit := by
  rw [stepsPerUnit]
  generalize 1074 = n
  exact Nat.pow_pos (by decide)

/-- The grid of scale zero holds every representable number itself. -/
theorem readsBack_decimalSteps (h : Representable units) :
    readsBack units (decimalSteps units) 0 = true := by
  rw [readsBack, beq_iff_eq, Nat.pow_zero, Nat.mul_one, decimalSteps, Nat.mul_comm]
  calc nearestUnits (stepsPerUnit * units) stepsPerUnit
      = nearestUnits (stepsPerUnit * units) (stepsPerUnit * 1) := by rw [Nat.mul_one]
    _ = nearestUnits units 1 := nearestUnits_mul_left stepsPerUnit_pos ..
    _ = units := nearestUnits_one h

/-- What holds of all digits that the grids offer holds of those that are taken. -/
theorem coarsest_induction {offer : Nat → Option Nat} {exact : Nat} {good : Nat → Nat → Prop}
    (hexact : good exact 0) (hoffer : ∀ digits scale, offer scale = some digits → good digits scale)
    (scale : Nat) : good (coarsest offer exact scale).1 (coarsest offer exact scale).2 := by
  induction scale with
  | zero => exact hexact
  | succ scale ih =>
    rw [coarsest]
    split
    · next digits hdigits => exact hoffer digits _ hdigits
    · exact ih

/-- **The shortest digits read back.** -/
theorem readsBack_shortest (h : Representable units) :
    readsBack units (shortest units).1 (shortest units).2 = true :=
  have hoffer : ∀ digits scale, neighbour? units scale = some digits →
      readsBack units digits scale = true := fun _ _ h => readsBack_of_neighbour? h
  coarsest_induction (readsBack_decimalSteps h) hoffer _

/-! ### The value of a positional text -/

/-- Steps of `10 ^ -p` as a fraction whose terms are powers of ten with no common factor. -/
theorem steps_eq_ratio (digits scale p : Nat) :
    10 ^ min scale p * (digits * 10 ^ (scale - p) * 2 ^ p) = 2 ^ p * (digits * 10 ^ scale) ∧
      10 ^ min scale p * 10 ^ (p - scale) = 2 ^ p * 5 ^ p := by
  constructor
  · have hscale : 10 ^ scale = 10 ^ min scale p * 10 ^ (scale - p) := by
      rw [← Nat.pow_add]
      congr 1
      omega
    rw [hscale]
    ring
  · rw [← Nat.pow_add, ← Nat.mul_pow]
    congr 1
    omega

/-- Steps of `10 ^ -p` and the fraction that they are round to the same count. -/
theorem nearestUnits_steps (digits scale p : Nat) {one steps : Nat} (hone : one = 2 ^ p)
    (hsteps : steps = 5 ^ p) :
    nearestUnits (digits * 10 ^ (scale - p) * one) (10 ^ (p - scale)) =
      nearestUnits (digits * 10 ^ scale) steps := by
  obtain ⟨hnum, hden⟩ := steps_eq_ratio digits scale p
  have hmin : 0 < 10 ^ min scale p := Nat.pow_pos (by decide)
  rw [← nearestUnits_mul_left hmin, hone, hsteps, hnum, hden,
    nearestUnits_mul_left (Nat.two_pow_pos p)]

/-- Digits that read back, as a fraction, are the number. -/
theorem ofRatio_of_readsBack (h : Representable units)
    (hread : readsBack units digits scale = true) :
    ofRatio false (digits * 10 ^ (scale - 1074)) (10 ^ (1074 - scale)) =
      .finite false units h := by
  have hone : unitsPerOne = 2 ^ (1074 : Nat) := by rw [unitsPerOne]
  have hsteps : stepsPerUnit = 5 ^ (1074 : Nat) := by rw [stepsPerUnit]
  have hunits : nearestUnits (digits * 10 ^ (scale - 1074) * unitsPerOne) (10 ^ (1074 - scale)) =
      units :=
    (nearestUnits_steps digits scale 1074 hone hsteps).trans (beq_iff_eq.mp hread)
  rw [ofRatio, ofUnitRatio, hunits, ofUnits_of_representable]

/-! ### The text of the digits -/

theorem isDigit_of_mem_toDigits {n : Nat} {c : Char} (h : c ∈ Nat.toDigits 10 n) :
    Text.isDigit c = true := by
  have hc := Nat.isDigit_of_mem_toDigits (by decide) (by decide) h
  simpa only [Char.isDigit, Text.isDigit, Bool.and_eq_true, decide_eq_true_eq, ge_iff_le,
    Char.le_def] using hc

section Padded

variable {width n : Nat}

theorem isDigit_of_mem_padded {c : Char} (h : c ∈ padded width n) : Text.isDigit c = true := by
  rcases List.mem_append.mp h with h | h
  · rw [(List.mem_replicate.mp h).2]
    decide
  · exact isDigit_of_mem_toDigits h

theorem length_padded (hwidth : 0 < width) (h : n < 10 ^ width) :
    (padded width n).length = width := by
  have hlen := (Nat.length_toDigits_le_iff (by decide) hwidth).mpr h
  simp only [padded, List.length_append, List.length_replicate]
  omega

/-- Zeros in front of digits do not change their value. -/
theorem ofDigitChars_padded (init : Nat) (hwidth : 0 < width) (h : n < 10 ^ width) :
    Nat.ofDigitChars 10 (padded width n) init = 10 ^ width * init + n := by
  have hlen := (Nat.length_toDigits_le_iff (by decide) hwidth).mpr h
  rw [Nat.ofDigitChars_eq_ofDigitChars_zero, length_padded hwidth h, padded,
    Nat.ofDigitChars_append, Nat.ofDigitChars_replicate_zero, Nat.mul_zero,
    Nat.ofDigitChars_ten_toDigits]

end Padded

/-- The fraction of a literal with the point before it, which only stands before digits. -/
def fractionText (fraction : List Char) : List Char :=
  if fraction.isEmpty then [] else '.' :: fraction

/-- The literal with the given digits before and after its point. -/
def literal (whole fraction : List Char) : List Char := whole ++ fractionText fraction

/-- Whether characters are the digits of a literal: some before the point, and no others at all. -/
def LiteralDigits (whole fraction : List Char) : Prop :=
  whole ≠ [] ∧ ∀ c ∈ whole ++ fraction, Text.isDigit c = true

/-- A positional text is a literal of the ratio that it stands for. -/
theorem positional_eq_literal (digits places : Nat) :
    ∃ whole fraction, positional digits places = literal whole fraction ∧
      LiteralDigits whole fraction ∧ digitsValue (whole ++ fraction) = digits ∧
      fraction.length = places := by
  rcases Nat.eq_zero_or_pos places with rfl | hplaces
  · refine ⟨Nat.toDigits 10 digits, [], ?_, ⟨Nat.toDigits_ne_nil, fun c hc => ?_⟩, ?_, rfl⟩
    · rw [positional, if_pos rfl]
      exact (List.append_nil _).symm
    · rw [List.append_nil] at hc
      exact isDigit_of_mem_toDigits hc
    · rw [List.append_nil, digitsValue, Nat.ofDigitChars_ten_toDigits]
  · have hrem : digits % 10 ^ places < 10 ^ places := Nat.mod_lt _ (Nat.pow_pos (by decide))
    have hlen := length_padded hplaces hrem
    refine ⟨Nat.toDigits 10 (digits / 10 ^ places), padded places (digits % 10 ^ places), ?_,
      ⟨Nat.toDigits_ne_nil, fun c hc => ?_⟩, ?_, hlen⟩
    · have hne : (padded places (digits % 10 ^ places)).isEmpty = false := by
        rw [List.isEmpty_eq_false_iff, ← List.length_pos_iff, hlen]
        exact hplaces
      rw [positional, if_neg (Nat.ne_of_gt hplaces), literal, fractionText, hne]
      rfl
    · rcases List.mem_append.mp hc with hc | hc
      · exact isDigit_of_mem_toDigits hc
      · exact isDigit_of_mem_padded hc
    · rw [digitsValue, Nat.ofDigitChars_append, Nat.ofDigitChars_ten_toDigits,
        ofDigitChars_padded _ hplaces hrem]
      exact Nat.div_add_mod digits (10 ^ places)

theorem exists_finite {x : Binary64} (hx : x.isFinite = true) :
    ∃ negative units hunits, x = finite negative units hunits := by
  cases x with
  | finite negative units hunits => exact ⟨negative, units, hunits, rfl⟩
  | nan | infinite _ => cases hx

theorem text_finite_false (h : Representable units) :
    (finite false units h).text = magnitudeText units := by
  unfold text
  exact if_neg Bool.false_ne_true

theorem text_finite_true (h : Representable units) :
    (finite true units h).text = '-' :: magnitudeText units := by
  unfold text
  exact if_pos rfl

/-- The text of a finite number is a literal of it, with the digits that are chosen. -/
theorem exists_magnitudeText_digits (h : Representable units) :
    ∃ whole fraction, magnitudeText units = literal whole fraction ∧
      LiteralDigits whole fraction ∧ ofDigits whole fraction = .finite false units h ∧
      digitsValue (whole ++ fraction) =
        if units = 0 then 0 else (shortest units).1 * 10 ^ ((shortest units).2 - 1074) := by
  unfold magnitudeText
  split
  · next hzero =>
    subst hzero
    have hread : ofDigits ['0'] [] = zero false := by decide +kernel
    have hdigit : ∀ c ∈ ['0'] ++ [], Text.isDigit c = true := by
      intro c hc
      rw [List.append_nil, List.mem_singleton] at hc
      rw [hc]
      rfl
    exact ⟨['0'], [], rfl, ⟨List.cons_ne_nil _ _, hdigit⟩, hread, rfl⟩
  · have hread := readsBack_shortest h
    -- only that they read back is used of the digits that are chosen
    generalize shortest units = chosen at hread
    obtain ⟨digits, scale⟩ := chosen
    obtain ⟨whole, fraction, htext, hdigits, hvalue, hplaces⟩ :=
      positional_eq_literal (digits * 10 ^ (scale - 1074)) (1074 - scale)
    refine ⟨whole, fraction, htext, hdigits, ?_, hvalue⟩
    rw [ofDigits, hvalue, hplaces]
    exact ofRatio_of_readsBack h hread

/-- **The text of a finite number is a literal of it.** -/
theorem exists_magnitudeText_eq (h : Representable units) :
    ∃ whole fraction, magnitudeText units = literal whole fraction ∧
      LiteralDigits whole fraction ∧ ofDigits whole fraction = .finite false units h := by
  obtain ⟨whole, fraction, htext, hdigits, hread, -⟩ := exists_magnitudeText_digits h
  exact ⟨whole, fraction, htext, hdigits, hread⟩

end Binary64

end SheetFormula
