import SheetFormula.Proofs.Binary64.ReadBack

/-!
# Whole numbers

The whole numbers up to `2⁵³` are numbers of the format (`representable_whole`). So they are held as
they are: their truncation is themselves, and they are added and subtracted without rounding
(`Binary64.truncate_ofNat`, `Binary64.ofNat_add`, `Binary64.ofNat_sub`). Rounding carries nothing
below a number of the format (`le_nearestUnits`), so what lies beyond `2⁵³` stays there
(`Binary64.windowLimit_le_truncate_ofNat`). In general truncation divides towards zero and ends
where the words do (`Binary64.truncate_eq`).
-/

namespace SheetFormula

-- Powers are those of the core library, whatever else is imported.
attribute [local instance (2000)] instPowNat

/-! ### Windows of digits -/

/-- Digits that fit a window are representable wherever they stand. -/
theorem representable_mul_two_pow {n k : Nat} (hn : n < Binary64.windowLimit)
    (hlimit : n * 2 ^ k < unitsLimit) : Representable (n * 2 ^ k) := by
  refine ⟨hlimit, ?_⟩
  rcases Nat.eq_zero_or_pos n with rfl | hpos
  · rw [Nat.zero_mul, Nat.zero_mod]
  · have hpow : 0 < 2 ^ k := Nat.two_pow_pos k
    have hlt : n * 2 ^ k < 2 ^ (53 + k) := by
      rw [Nat.pow_add]
      exact Nat.mul_lt_mul_of_pos_right hn hpow
    have hlog : (n * 2 ^ k).log2 < 53 + k :=
      (Nat.log2_lt (Nat.ne_of_gt (Nat.mul_pos hpos hpow))).mpr hlt
    have hshift : windowShift (n * 2 ^ k) ≤ k := by
      unfold windowShift
      omega
    exact Nat.mod_eq_zero_of_dvd (Nat.dvd_mul_left_of_dvd (Nat.pow_dvd_pow 2 hshift) n)

/-- The digits of a number in its window are at least those of a smaller representable one. -/
theorem le_window {units num : Nat} (hunits : Representable units) (h : units ≤ num) :
    units ≤ num / 2 ^ windowShift num * 2 ^ windowShift num := by
  have hpow : 0 < 2 ^ windowShift num := Nat.two_pow_pos _
  rcases Nat.lt_or_ge (windowShift units) (windowShift num) with hshift | hshift
  · -- the window of the greater number begins higher, above all digits of the smaller one
    have hlog : units.log2 < num.log2 ∧ num.log2 = 52 + windowShift num := by
      unfold windowShift at *
      omega
    have hne : num ≠ 0 := by
      rintro rfl
      simp at hlog
    have htop : 2 ^ 52 ≤ num / 2 ^ windowShift num := by
      rw [Nat.le_div_iff_mul_le hpow, ← Nat.pow_add, ← hlog.2]
      exact Nat.log2_self_le hne
    calc units ≤ 2 ^ (units.log2 + 1) := Nat.le_of_lt Nat.lt_log2_self
      _ ≤ 2 ^ (52 + windowShift num) := Nat.pow_le_pow_right (by decide) (by omega)
      _ = 2 ^ 52 * 2 ^ windowShift num := Nat.pow_add ..
      _ ≤ num / 2 ^ windowShift num * 2 ^ windowShift num := Nat.mul_le_mul_right _ htop
  · have hdvd : 2 ^ windowShift num ∣ units :=
      Nat.dvd_trans (Nat.pow_dvd_pow 2 hshift) (Nat.dvd_of_mod_eq_zero hunits.2)
    obtain ⟨digits, rfl⟩ := hdvd
    rw [Nat.mul_comm]
    refine Nat.mul_le_mul_right _ ?_
    rw [Nat.le_div_iff_mul_le hpow, Nat.mul_comm]
    exact h

/-- **Rounding carries nothing below a representable count.** -/
theorem le_nearestUnits {units num : Nat} (hunits : Representable units) (h : units ≤ num) :
    units ≤ nearestUnits num 1 := by
  refine Nat.le_trans (le_window hunits h) ?_
  unfold nearestUnits roundDiv
  rw [Nat.div_one, Nat.one_mul]
  refine Nat.mul_le_mul_right _ ?_
  split <;> omega

namespace Binary64

variable {a b n : Nat}

theorem exists_unitsPerOne_eq : ∃ k : Nat, unitsPerOne = 2 ^ k := by
  have hone : unitsPerOne = 2 ^ (1074 : Nat) := by rw [unitsPerOne]
  exact ⟨1074, hone⟩

theorem unitsPerOne_pos : 0 < unitsPerOne := by
  obtain ⟨k, hk⟩ := exists_unitsPerOne_eq
  rw [hk]
  exact Nat.two_pow_pos k

/-- **Whole numbers up to `2⁵³` are representable.** -/
theorem representable_whole (h : n ≤ windowLimit) : Representable (n * unitsPerOne) := by
  rcases Nat.lt_or_eq_of_le h with h | rfl
  · have hlimit : n * unitsPerOne < unitsLimit := by
      have htop : windowLimit * unitsPerOne < unitsLimit := by decide +kernel
      exact Nat.lt_trans (Nat.mul_lt_mul_of_pos_right h unitsPerOne_pos) htop
    obtain ⟨k, hk⟩ := exists_unitsPerOne_eq
    rw [hk] at hlimit ⊢
    exact representable_mul_two_pow h hlimit
  · decide +kernel

/-- A whole number up to `2⁵³` is held as it is. -/
theorem ofNat_eq (h : n ≤ windowLimit) :
    ofNat n = .finite false (n * unitsPerOne) (representable_whole h) := by
  rw [ofNat, ofRatio, ofUnitRatio, nearestUnits_one (representable_whole h),
    ofUnits_of_representable]

/-! ### Truncation -/

theorem signed_div (negative : Bool) (units : Nat) :
    signed negative (units / unitsPerOne) = (signed negative units).tdiv unitsPerOne := by
  cases negative with
  | false => exact Int.ofNat_tdiv units unitsPerOne
  | true => rw [signed, signed, if_pos rfl, if_pos rfl, Int.neg_tdiv, Int.ofNat_tdiv]

/-- **Truncation rounds towards zero**, to the nearest integer that a signed word holds: the place
of a number is divided by that of one, without regard to the remainder. Infinities, whose place is
beyond all words, go to the ends of the words, and not-a-number to zero. -/
theorem truncate_eq (x : Binary64) :
    x.truncate = (x.rank.map fun place => Word.saturated (place.tdiv unitsPerOne)).getD 0 := by
  cases x with
  | nan => rfl
  | infinite negative => cases negative <;> decide +kernel
  | finite negative units h => exact congrArg Word.saturated (signed_div negative units)

/-- **The truncation of a whole number is itself.** -/
theorem truncate_ofNat (h : n ≤ windowLimit) : (ofNat n).truncate = n := by
  have hword : (windowLimit : Int) ≤ Word.greatest := by decide +kernel
  have hplace : (ofNat n).rank = some ((n * unitsPerOne : Nat) : Int) := by
    rw [ofNat_eq h]
    rfl
  have hquotient : ((n * unitsPerOne : Nat) : Int).tdiv unitsPerOne = n := by
    rw [← Int.ofNat_tdiv, Nat.mul_div_cancel _ unitsPerOne_pos]
  rw [truncate_eq, hplace, Option.map_some, Option.getD_some, hquotient]
  unfold Word.saturated Word.least
  omega

/-- What lies beyond `2⁵³` is not rounded below it. -/
theorem windowLimit_le_truncate_ofNat (h : windowLimit ≤ n) :
    (windowLimit : Int) ≤ (ofNat n).truncate := by
  have hword : (windowLimit : Int) ≤ Word.greatest := by decide +kernel
  have hunits : windowLimit * unitsPerOne ≤ nearestUnits (n * unitsPerOne) 1 :=
    le_nearestUnits (representable_whole (Nat.le_refl _)) (Nat.mul_le_mul_right _ h)
  rw [ofNat, ofRatio, ofUnitRatio, ofUnits]
  split
  · have hwhole : windowLimit ≤ nearestUnits (n * unitsPerOne) 1 / unitsPerOne :=
      (Nat.le_div_iff_mul_le unitsPerOne_pos).mpr hunits
    simp only [truncate, signed]
    unfold Word.saturated
    rw [if_neg Bool.false_ne_true]
    omega
  · exact hword

/-! ### Sums and differences -/

theorem ofSignedUnits_natCast (units : Nat) :
    ofSignedUnits units false = ofUnitRatio false units 1 := by
  have hsign : (if (units : Int) = 0 then false else decide ((units : Int) < 0)) = false := by
    split
    · rfl
    · exact decide_eq_false (by omega)
  rw [ofSignedUnits, hsign, Int.natAbs_natCast]

/-- **The sum of whole numbers** is their exact sum, rounded once. -/
theorem ofNat_add (ha : a ≤ windowLimit) (hb : b ≤ windowLimit) :
    (ofNat a).add (ofNat b) = ofNat (a + b) := by
  have hsum : ((a * unitsPerOne : Nat) : Int) + (b * unitsPerOne : Nat) =
      ((a + b) * unitsPerOne : Nat) := by
    rw [Nat.add_mul]
    rfl
  rw [ofNat_eq ha, ofNat_eq hb]
  simp only [add, signed, Bool.false_eq_true, if_false, Bool.and_false]
  rw [hsum, ofSignedUnits_natCast, ofNat, ofRatio]

/-- **The difference of whole numbers** is exact. -/
theorem ofNat_sub (hba : b ≤ a) (ha : a ≤ windowLimit) :
    (ofNat a).sub (ofNat b) = ofNat (a - b) := by
  have hdifference : ((a * unitsPerOne : Nat) : Int) + -(b * unitsPerOne : Nat) =
      ((a - b) * unitsPerOne : Nat) := by
    have hle : b * unitsPerOne ≤ a * unitsPerOne := Nat.mul_le_mul_right _ hba
    rw [Nat.sub_mul]
    omega
  rw [ofNat_eq ha, ofNat_eq (Nat.le_trans hba ha)]
  simp only [sub, neg, add, signed, Bool.false_eq_true, if_false, Bool.not_false, if_true,
    Bool.and_true]
  rw [hdifference, ofSignedUnits_natCast, ofNat, ofRatio]

end Binary64

end SheetFormula
