import Mathlib.Algebra.Order.Field.Rat
import Mathlib.Data.Nat.Cast.Order.Field
import Mathlib.Tactic.FieldSimp
import Mathlib.Tactic.Linarith
import Mathlib.Tactic.Positivity
import SheetFormula.Proofs.Binary64.Pattern

/-!
# The nearest number

A number has an exact value (`Binary64.value`), and one that is nearest to a rational number is as
near as every other one, and nearer than all others unless its bits end in a zero
(`Binary64.IsNearest`). Rounding finds it: a ratio lies between two neighbours that no count of
units lies between (`Neighbours`), it is rounded to the nearer one, and the patterns of neighbours
are consecutive, so only one of them is even where both are equally near. So there is one nearest
number without a sign (`Binary64.isNearest_iff`).

What lies between two rational numbers with one nearest number has this nearest number too
(`Binary64.IsNearest.between`).
-/

namespace SheetFormula

-- Powers are those of the core library, whatever else is imported.
attribute [local instance (2000)] instPowNat

variable {a s u v num den : Nat} {r : ℚ}

/-! ### Neighbours of a ratio -/

/-- The counts `a · 2 ^ s` and `(a + 1) · 2 ^ s` are the **neighbours** of a rational number, where
a window of 53 digits begins at place `s`. -/
structure Neighbours (r : ℚ) (a s : Nat) : Prop where
  low_le : ((a * 2 ^ s : Nat) : ℚ) ≤ r
  lt_high : r < (((a + 1) * 2 ^ s : Nat) : ℚ)
  full : 2 ^ (52 : Nat) ≤ a ∨ s = 0
  fits : a < 2 ^ (53 : Nat)

namespace Neighbours

/-- No count of units lies between neighbours. -/
theorem le_or_le (h : Neighbours r a s) (hu : FitsWindow u) :
    u ≤ a * 2 ^ s ∨ (a + 1) * 2 ^ s ≤ u := by
  rcases Nat.lt_or_ge (windowShift u) s with hs | hs
  · -- the window of `u` begins lower, and all of it lies below
    have hpow : 0 < 2 ^ windowShift u := Nat.two_pow_pos _
    have hfull : 2 ^ (52 : Nat) ≤ a := h.full.resolve_right (by omega)
    have hlt : u < 2 ^ (53 : Nat) * 2 ^ windowShift u :=
      (Nat.div_lt_iff_lt_mul hpow).mp (window_digits u).1
    refine .inl (Nat.le_of_lt (Nat.lt_of_lt_of_le hlt ?_))
    calc 2 ^ (53 : Nat) * 2 ^ windowShift u
        = 2 ^ (52 : Nat) * 2 ^ (windowShift u + 1) := by
          rw [Nat.pow_succ 2 (windowShift u), ← Nat.mul_assoc, Nat.mul_right_comm]
      _ ≤ a * 2 ^ s := Nat.mul_le_mul hfull (Nat.pow_le_pow_right (by decide) hs)
  · have hdvd : 2 ^ s ∣ u :=
      Nat.dvd_trans (Nat.pow_dvd_pow 2 hs) (Nat.dvd_of_mod_eq_zero hu)
    obtain ⟨b, rfl⟩ := hdvd
    rw [Nat.mul_comm (2 ^ s)]
    rcases Nat.lt_or_ge a b with hab | hab
    · exact .inr (Nat.mul_le_mul_right _ hab)
    · exact .inl (Nat.mul_le_mul_right _ hab)

theorem pattern_low (h : Neighbours r a s) : pattern (a * 2 ^ s) = s * 2 ^ (52 : Nat) + a :=
  pattern_mul_two_pow h.full (Nat.le_of_lt h.fits)

theorem pattern_high (h : Neighbours r a s) :
    pattern ((a + 1) * 2 ^ s) = s * 2 ^ (52 : Nat) + (a + 1) :=
  pattern_mul_two_pow (h.full.imp_left Nat.le_succ_of_le) h.fits

theorem fitsWindow_low (h : Neighbours r a s) : FitsWindow (a * 2 ^ s) :=
  fitsWindow_mul_two_pow h.full (Nat.le_of_lt h.fits)

theorem fitsWindow_high (h : Neighbours r a s) : FitsWindow ((a + 1) * 2 ^ s) :=
  fitsWindow_mul_two_pow (h.full.imp_left Nat.le_succ_of_le) h.fits

end Neighbours

/-- The neighbours of a ratio, in the window of its quotient. -/
theorem neighbours_ratio (hden : 0 < den) :
    Neighbours (num / den) (num / den / 2 ^ windowShift (num / den)) (windowShift (num / den)) := by
  have hdenominator : (0 : ℚ) < den := Nat.cast_pos.mpr hden
  obtain ⟨hfits, hfull⟩ := window_digits (num / den)
  generalize windowShift (num / den) = s at hfits hfull ⊢
  have hpow : 0 < 2 ^ s := Nat.two_pow_pos s
  refine ⟨?_, ?_, hfull, hfits⟩
  · rw [le_div_iff₀ hdenominator]
    have hle : num / den / 2 ^ s * 2 ^ s * den ≤ num :=
      Nat.le_trans (Nat.mul_le_mul_right _ (Nat.div_mul_le_self ..)) (Nat.div_mul_le_self ..)
    exact_mod_cast hle
  · rw [div_lt_iff₀ hdenominator]
    have hlt : num < (num / den / 2 ^ s + 1) * 2 ^ s * den := by
      rw [← Nat.div_lt_iff_lt_mul hden, ← Nat.div_lt_iff_lt_mul hpow]
      exact Nat.lt_succ_self _
    exact_mod_cast hlt

/-- The way that a ratio is rounded: to the lower neighbour below the middle, to the upper one above
it, and to the even one in the middle. -/
inductive RoundsTo (r : ℚ) (a s : Nat) : Nat → Prop
  | low (h : 2 * r < ((a * 2 ^ s + (a + 1) * 2 ^ s : Nat) : ℚ)) : RoundsTo r a s (a * 2 ^ s)
  | high (h : ((a * 2 ^ s + (a + 1) * 2 ^ s : Nat) : ℚ) < 2 * r) : RoundsTo r a s ((a + 1) * 2 ^ s)
  | evenLow (h : 2 * r = ((a * 2 ^ s + (a + 1) * 2 ^ s : Nat) : ℚ)) (even : a % 2 = 0) :
    RoundsTo r a s (a * 2 ^ s)
  | evenHigh (h : 2 * r = ((a * 2 ^ s + (a + 1) * 2 ^ s : Nat) : ℚ)) (even : (a + 1) % 2 = 0) :
    RoundsTo r a s ((a + 1) * 2 ^ s)

theorem roundsTo_nearestUnits (hden : 0 < den) :
    RoundsTo (num / den) (num / den / 2 ^ windowShift (num / den)) (windowShift (num / den))
      (nearestUnits num den) := by
  have hdenominator : (0 : ℚ) < den := Nat.cast_pos.mpr hden
  rw [nearestUnits, roundDiv, Nat.div_div_eq_div_mul]
  generalize windowShift (num / den) = s
  have hsplit := Nat.div_add_mod num (den * 2 ^ s)
  have hrest : num % (den * 2 ^ s) < den * 2 ^ s :=
    Nat.mod_lt _ (Nat.mul_pos hden (Nat.two_pow_pos s))
  generalize num / (den * 2 ^ s) = a at hsplit ⊢
  generalize num % (den * 2 ^ s) = rest at hsplit hrest ⊢
  have hmiddle : (a * 2 ^ s + (a + 1) * 2 ^ s) * den = 2 * (den * 2 ^ s * a) + den * 2 ^ s := by
    ring
  have htwice : 2 * ((num : ℚ) / den) = (2 * num : Nat) / den := by push_cast; ring
  have hbelow (c : Nat) : 2 * ((num : ℚ) / den) < c ↔ 2 * num < c * den := by
    rw [htwice, div_lt_iff₀ hdenominator]
    exact_mod_cast Iff.rfl
  have habove (c : Nat) : c < 2 * ((num : ℚ) / den) ↔ c * den < 2 * num := by
    rw [htwice, lt_div_iff₀ hdenominator]
    exact_mod_cast Iff.rfl
  have hat (c : Nat) : 2 * ((num : ℚ) / den) = c ↔ 2 * num = c * den := by
    rw [htwice, div_eq_iff (ne_of_gt hdenominator)]
    exact_mod_cast Iff.rfl
  split
  · next hlow =>
    rcases hlow with hlow | ⟨hlow, heven⟩
    · refine .low ((hbelow _).mpr ?_)
      omega
    · refine .evenLow ((hat _).mpr ?_) heven
      omega
  · next hhigh =>
    rw [not_or, not_and] at hhigh
    rcases Nat.lt_or_eq_of_le (Nat.le_of_not_lt hhigh.1) with hlt | heq
    · refine .high ((habove _).mpr ?_)
      omega
    · have hodd := hhigh.2 heq.symm
      refine .evenHigh ((hat _).mpr ?_) (by omega)
      omega

/-! ### The nearest count of units -/

/-- Of two counts of units one is **preferred** that is nearer, or as near with an even pattern. -/
def Preferred (r : ℚ) (v u : Nat) : Prop :=
  |(v : ℚ) - r| < |(u : ℚ) - r| ∨
    (|(v : ℚ) - r| = |(u : ℚ) - r| ∧ pattern v % 2 = 0 ∧ pattern u % 2 = 1)

/-- What is rounded to is one neighbour, and preferred to the other one. -/
theorem RoundsTo.preferred (h : Neighbours r a s) (hv : RoundsTo r a s v) :
    (v = a * 2 ^ s ∧ Preferred r v ((a + 1) * 2 ^ s)) ∨
      (v = (a + 1) * 2 ^ s ∧ Preferred r v (a * 2 ^ s)) := by
  have hlow := h.low_le
  have hhigh := h.lt_high
  have hdown : |((a * 2 ^ s : Nat) : ℚ) - r| = r - (a * 2 ^ s : Nat) := by
    rw [abs_of_nonpos (by linarith)]
    ring
  have hup : |(((a + 1) * 2 ^ s : Nat) : ℚ) - r| = ((a + 1) * 2 ^ s : Nat) - r :=
    abs_of_pos (by linarith)
  unfold Preferred
  cases hv with
  | low hmiddle =>
    refine .inl ⟨rfl, .inl ?_⟩
    rw [hdown, hup]
    push_cast at hmiddle ⊢
    linarith
  | high hmiddle =>
    refine .inr ⟨rfl, .inl ?_⟩
    rw [hdown, hup]
    push_cast at hmiddle ⊢
    linarith
  | evenLow hmiddle heven =>
    refine .inl ⟨rfl, .inr ⟨?_, ?_, ?_⟩⟩
    · rw [hdown, hup]
      push_cast at hmiddle ⊢
      linarith
    · rw [h.pattern_low]
      omega
    · rw [h.pattern_high]
      omega
  | evenHigh hmiddle heven =>
    refine .inr ⟨rfl, .inr ⟨?_, ?_, ?_⟩⟩
    · rw [hdown, hup]
      push_cast at hmiddle ⊢
      linarith
    · rw [h.pattern_high]
      omega
    · rw [h.pattern_low]
      omega

section Farther

variable {w : Nat}

theorem farther_below (hw : (w : ℚ) ≤ r) (hu : u < w) : |(w : ℚ) - r| < |(u : ℚ) - r| := by
  have hlt : (u : ℚ) < w := Nat.cast_lt.mpr hu
  rw [abs_of_nonpos (by linarith), abs_of_nonpos (by linarith)]
  linarith

theorem farther_above (hw : r ≤ (w : ℚ)) (hu : w < u) : |(w : ℚ) - r| < |(u : ℚ) - r| := by
  have hlt : (w : ℚ) < u := Nat.cast_lt.mpr hu
  rw [abs_of_nonneg (by linarith), abs_of_nonneg (by linarith)]
  linarith

theorem Preferred.farther (h : Preferred r v w) (hu : |(w : ℚ) - r| < |(u : ℚ) - r|) :
    Preferred r v u := by
  rcases h with h | ⟨h, -⟩
  · exact .inl (h.trans hu)
  · exact .inl (h.trans_lt hu)

end Farther

/-- **Rounding finds the nearest count of units**, a tie going to the even pattern. -/
theorem nearestUnits_preferred (hden : 0 < den) (hu : FitsWindow u)
    (hne : u ≠ nearestUnits num den) : Preferred (num / den) (nearestUnits num den) u := by
  have hneighbours : Neighbours (num / den) _ _ := neighbours_ratio hden
  rcases hneighbours.le_or_le hu with hbelow | habove <;>
    rcases (roundsTo_nearestUnits hden).preferred hneighbours with ⟨hv, hother⟩ | ⟨hv, hother⟩
  · have hlt := Nat.lt_of_le_of_ne hbelow (hv ▸ hne)
    rw [hv]
    exact .inl (farther_below hneighbours.low_le hlt)
  · rcases Nat.lt_or_eq_of_le hbelow with hlt | heq
    · exact hother.farther (farther_below hneighbours.low_le hlt)
    · rwa [heq]
  · rcases Nat.lt_or_eq_of_le habove with hlt | heq
    · exact hother.farther (farther_above (le_of_lt hneighbours.lt_high) hlt)
    · rwa [← heq]
  · have hlt := Nat.lt_of_le_of_ne habove (fun heq => hne (hv ▸ heq.symm))
    rw [hv]
    exact .inl (farther_above (le_of_lt hneighbours.lt_high) hlt)

theorem fitsWindow_nearestUnits (num : Nat) (hden : 0 < den) :
    FitsWindow (nearestUnits num den) := by
  have hneighbours : Neighbours (num / den) _ _ := neighbours_ratio hden
  rcases (roundsTo_nearestUnits hden).preferred hneighbours with ⟨hv, -⟩ | ⟨hv, -⟩
  · rw [hv]
    exact hneighbours.fitsWindow_low
  · rw [hv]
    exact hneighbours.fitsWindow_high

/-- **Within the range** the nearest count of units is the same, or the end of the range. -/
theorem min_preferred (hden : 0 < den) (hu : FitsWindow u) (hlimit : u ≤ unitsLimit)
    (hne : u ≠ min (nearestUnits num den) unitsLimit) :
    Preferred (num / den) (min (nearestUnits num den) unitsLimit) u := by
  rcases Nat.lt_or_ge unitsLimit (nearestUnits num den) with hbeyond | hwithin
  · rw [Nat.min_eq_right (Nat.le_of_lt hbeyond)] at hne ⊢
    have hlt := Nat.lt_of_le_of_ne hlimit hne
    -- what is rounded beyond the end lies beyond the end
    have hend : (unitsLimit : ℚ) ≤ num / den := by
      by_contra hnot
      have hfarther := farther_above (le_of_lt (not_le.mp hnot)) hbeyond
      have hne := Nat.ne_of_lt hbeyond
      rcases nearestUnits_preferred hden fitsWindow_unitsLimit hne with h | ⟨h, -⟩
      · exact lt_asymm h hfarther
      · exact absurd h (ne_of_gt hfarther)
    exact .inl (farther_below hend hlt)
  · rw [Nat.min_eq_left hwithin] at hne ⊢
    exact nearestUnits_preferred hden hu hne

namespace Binary64

variable {x y : Binary64} {q b c : ℚ}

/-! ### Values -/

/-- The place of a number in units. An infinity stands where the finite numbers end. -/
def place (x : Binary64) : ℚ := if x.isNegative then -(x.magnitude : ℚ) else x.magnitude

/-- The exact **value** of a number. For rounding an infinite one stands at `2 ^ 1024`, where the
next number would be if the range went on. -/
def value (x : Binary64) : ℚ := x.place / unitsPerOne

/-- A number is **nearest** to a rational number when none is nearer, and none as near unless its
own bits end in a zero. -/
def IsNearest (x : Binary64) (q : ℚ) : Prop :=
  x ≠ nan ∧ ∀ y, y ≠ nan → y ≠ x →
    |x.value - q| < |y.value - q| ∨ (|x.value - q| = |y.value - q| ∧ x.bits % 2 = 0)

theorem unitsPerOne_cast_pos : (0 : ℚ) < unitsPerOne := Nat.cast_pos.mpr unitsPerOne_pos

theorem place_of_positive (h : x.isNegative = false) : x.place = x.magnitude := by
  rw [place, h, if_neg Bool.false_ne_true]

theorem place_of_negative (h : x.isNegative = true) : x.place = -x.magnitude := by
  rw [place, h, if_pos rfl]

theorem abs_value_sub (x : Binary64) (r : ℚ) :
    |x.value - r / unitsPerOne| = |x.place - r| / unitsPerOne := by
  rw [value, ← sub_div, abs_div, abs_of_pos unitsPerOne_cast_pos]

/-- The nearest number, with distances in units. -/
theorem isNearest_div_iff : IsNearest x (r / unitsPerOne) ↔
    x ≠ nan ∧ ∀ y, y ≠ nan → y ≠ x →
      |x.place - r| < |y.place - r| ∨ (|x.place - r| = |y.place - r| ∧ x.bits % 2 = 0) := by
  have hpos := unitsPerOne_cast_pos
  simp only [IsNearest, abs_value_sub, div_lt_div_iff_of_pos_right hpos,
    div_left_inj' (ne_of_gt hpos)]

/-! ### The nearest number without a sign -/

theorem abs_neg_sub (hr : 0 ≤ r) : |-(u : ℚ) - r| = u + r := by
  have hu : (0 : ℚ) ≤ u := Nat.cast_nonneg u
  rw [abs_of_nonpos (by linarith)]
  ring

/-- Behind zero nothing is nearer. -/
theorem abs_sub_le_add (hr : 0 ≤ r) : |(u : ℚ) - r| ≤ u + r := by
  have hu : (0 : ℚ) ≤ u := Nat.cast_nonneg u
  rw [abs_le]
  constructor <;> linarith

/-- Only zero is as near as its opposite. -/
theorem pattern_even_of_eq (hr : 0 ≤ r)
    (h : ∀ u, FitsWindow u → u ≤ unitsLimit → u ≠ v → Preferred r v u)
    (heq : |(v : ℚ) - r| = v + r) : pattern v % 2 = 0 := by
  rcases Nat.eq_zero_or_pos v with rfl | hpos
  · decide
  · have hv : (0 : ℚ) < v := Nat.cast_pos.mpr hpos
    rcases h 0 representable_zero.2 (Nat.zero_le _) (Nat.ne_of_lt hpos) with hlt | ⟨-, heven, -⟩
    · rw [heq, Nat.cast_zero, zero_sub, abs_neg, abs_of_nonneg hr] at hlt
      linarith
    · exact heven

/-- What a count of units that fits its window becomes as a number. -/
theorem ofUnits_spec (negative : Bool) (hu : FitsWindow u) :
    ofUnits negative u ≠ nan ∧ (ofUnits negative u).isNegative = negative ∧
      (ofUnits negative u).magnitude = min u unitsLimit := by
  unfold ofUnits
  split
  · next h =>
    exact ⟨fun hnan => (by cases hnan), rfl, (Nat.min_eq_left (Nat.le_of_lt h.1)).symm⟩
  · next h =>
    have hle : unitsLimit ≤ u := Nat.le_of_not_lt fun hlt => h ⟨hlt, hu⟩
    exact ⟨fun hnan => (by cases hnan), rfl, (Nat.min_eq_right hle).symm⟩

/-- A number is nearest when its count of units is preferred to all others. -/
theorem isNearest_of_preferred (hx : x ≠ nan) (hsign : x.isNegative = false) (hr : 0 ≤ r)
    (h : ∀ u, FitsWindow u → u ≤ unitsLimit → u ≠ x.magnitude → Preferred r x.magnitude u) :
    IsNearest x (r / unitsPerOne) := by
  refine isNearest_div_iff.mpr ⟨hx, fun y hy hne => ?_⟩
  have hpreferred (hmagnitude : y.magnitude ≠ x.magnitude) : Preferred r x.magnitude y.magnitude :=
    h _ (fitsWindow_magnitude y) (magnitude_le y) hmagnitude
  rw [place_of_positive hsign, bits_mod_two hx]
  cases hysign : y.isNegative with
  | false =>
    have hmagnitude : y.magnitude ≠ x.magnitude := fun heq =>
      hne (eq_of_magnitude hy hx (hysign.trans hsign.symm) heq)
    rw [place_of_positive hysign]
    exact (hpreferred hmagnitude).imp_right fun ⟨hdistance, heven, _⟩ => ⟨hdistance, heven⟩
  | true =>
    rw [place_of_negative hysign, abs_neg_sub hr]
    by_cases hmagnitude : y.magnitude = x.magnitude
    · rw [hmagnitude]
      exact (abs_sub_le_add hr).lt_or_eq.imp_right fun heq => ⟨heq, pattern_even_of_eq hr h heq⟩
    · rcases hpreferred hmagnitude with hlt | ⟨heq, heven, -⟩
      · exact .inl (hlt.trans_le (abs_sub_le_add hr))
      · rw [heq]
        exact (abs_sub_le_add hr).lt_or_eq.imp_right fun heq => ⟨heq, heven⟩

/-- **The nearest number without a sign** is the one that is rounded to. -/
theorem isNearest_units_iff (hden : 0 < den) (hsign : x.isNegative = false) :
    IsNearest x (num / den / unitsPerOne) ↔ x = ofUnitRatio false num den := by
  obtain ⟨hnan', hsign', hmagnitude⟩ := ofUnits_spec false (fitsWindow_nearestUnits num hden)
  have hbest : ∀ u, FitsWindow u → u ≤ unitsLimit →
      u ≠ (ofUnits false (nearestUnits num den)).magnitude →
      Preferred (num / den) (ofUnits false (nearestUnits num den)).magnitude u := by
    rw [hmagnitude]
    exact fun u hu hlimit hne => min_preferred hden hu hlimit hne
  have hratio : (0 : ℚ) ≤ num / den := div_nonneg (Nat.cast_nonneg num) (Nat.cast_nonneg den)
  rw [ofUnitRatio]
  generalize ofUnits false (nearestUnits num den) = z at hnan' hsign' hbest ⊢
  constructor
  · intro hx
    by_contra hne
    obtain ⟨hnan, hx⟩ := isNearest_div_iff.mp hx
    have hmagnitude : x.magnitude ≠ z.magnitude := fun heq =>
      hne (eq_of_magnitude hnan hnan' (hsign.trans hsign'.symm) heq)
    have hz := hbest _ (fitsWindow_magnitude x) (magnitude_le x) hmagnitude
    have hx := hx z hnan' (Ne.symm hne)
    rw [place_of_positive hsign, place_of_positive hsign', bits_mod_two hnan] at hx
    rcases hx with hlt | ⟨heq, heven⟩
    · exact hz.elim (lt_asymm hlt) fun h => ne_of_lt hlt h.1.symm
    · rcases hz with hlt | ⟨-, -, hodd⟩
      · exact ne_of_lt hlt heq.symm
      · omega
  · rintro rfl
    exact isNearest_of_preferred hnan' hsign' hratio hbest

theorem isNearest_iff (hden : 0 < den) (hsign : x.isNegative = false) :
    IsNearest x (num / den) ↔ x = ofRatio false num den := by
  have hratio : (num / den : ℚ) = (num * unitsPerOne : Nat) / den / unitsPerOne := by
    have hpos := unitsPerOne_cast_pos
    generalize unitsPerOne = one at hpos ⊢
    push_cast
    field_simp
  rw [ofRatio, hratio]
  exact isNearest_units_iff hden hsign

/-! ### Between numbers that are read alike -/

section Middle

variable {low high : ℚ}

/-- Which of two values is nearer is decided by the side of their middle. -/
theorem abs_sub_low_iff (h : low < high) :
    (|low - q| < |high - q| ↔ 2 * q < low + high) ∧
      (|low - q| = |high - q| ↔ 2 * q = low + high) := by
  rcases abs_cases (low - q) with ⟨hlow, _⟩ | ⟨hlow, _⟩ <;>
    rcases abs_cases (high - q) with ⟨hhigh, _⟩ | ⟨hhigh, _⟩ <;> rw [hlow, hhigh] <;>
    refine ⟨⟨fun _ => ?_, fun _ => ?_⟩, ⟨fun _ => ?_, fun _ => ?_⟩⟩ <;> linarith

theorem abs_sub_high_iff (h : low < high) : |high - q| < |low - q| ↔ low + high < 2 * q := by
  have hle : |low - q| ≤ |high - q| ↔ 2 * q ≤ low + high := by
    rw [le_iff_lt_or_eq, le_iff_lt_or_eq, (abs_sub_low_iff h).1, (abs_sub_low_iff h).2]
  rw [← not_le, hle, not_le]

end Middle

/-- **What lies between two rational numbers with one nearest number has the same one.** -/
theorem IsNearest.between (hb : IsNearest x b) (hc : IsNearest x c) (hbq : b ≤ q) (hqc : q ≤ c) :
    IsNearest x q := by
  refine ⟨hb.1, fun y hy hne => ?_⟩
  have hb := hb.2 y hy hne
  have hc := hc.2 y hy hne
  rcases lt_trichotomy x.value y.value with hlt | heq | hlt
  · rw [(abs_sub_low_iff hlt).1, (abs_sub_low_iff hlt).2] at hc ⊢
    rcases hc with hc | ⟨hc, heven⟩
    · exact .inl (by linarith)
    · exact (lt_or_eq_of_le (by linarith)).imp_right fun heq => ⟨heq, heven⟩
  · rw [heq] at hb ⊢
    exact .inr ⟨rfl, (hb.resolve_left (lt_irrefl _)).2⟩
  · rw [abs_sub_high_iff hlt, eq_comm, (abs_sub_low_iff hlt).2] at hb ⊢
    rcases hb with hb | ⟨hb, heven⟩
    · exact .inl (by linarith)
    · exact (lt_or_eq_of_le (by linarith)).imp_right fun heq => ⟨heq.symm, heven⟩

end Binary64

end SheetFormula
