import Mathlib.Data.List.TakeWhile
import SheetFormula.Proofs.Binary64.ReadBack

/-!
# Significant digits

Of the digits of a decimal those are significant that stand from the first to the last one that is
not zero (`Binary64.significantDigits`). They are as few as they can be: digits with the value
`d · 10 ^ e` have no more significant ones than `d` has digits (`Binary64.significantDigits_le`).
-/

namespace SheetFormula

-- Powers are those of the core library, whatever else is imported.
attribute [local instance (2000)] instPowNat

namespace Binary64

variable {c : Char} {cs ds : List Char} {d e n : Nat}

/-- Whether a digit is zero. -/
def isZeroDigit (c : Char) : Bool := c == '0'

/-- The number of digits without the zeros in front and at the end. -/
def significantDigits (cs : List Char) : Nat :=
  ((cs.dropWhile isZeroDigit).reverse.dropWhile isZeroDigit).length

/-! ### The value of digits -/

theorem digitsValue_append (cs ds : List Char) :
    digitsValue (cs ++ ds) = 10 ^ ds.length * digitsValue cs + digitsValue ds := by
  rw [digitsValue, Nat.ofDigitChars_append, Nat.ofDigitChars_eq_ofDigitChars_zero]
  rfl

theorem digitsValue_replicate_zero (n : Nat) : digitsValue (List.replicate n '0') = 0 := by
  rw [digitsValue, Nat.ofDigitChars_replicate_zero, Nat.mul_zero]

theorem digitsValue_singleton (c : Char) : digitsValue [c] = c.toNat - '0'.toNat := by
  rw [digitsValue, Nat.ofDigitChars_cons, Nat.ofDigitChars_nil, Nat.mul_zero, Nat.zero_add]

/-- A digit other than zero has a value from one to nine. -/
theorem digitsValue_singleton_bounds (hc : Text.isDigit c = true) (hne : c ≠ '0') :
    0 < digitsValue [c] ∧ digitsValue [c] < 10 := by
  rw [Text.isDigit, Bool.and_eq_true] at hc
  have hzero : '0'.toNat ≤ c.toNat := of_decide_eq_true hc.1
  have hnine : c.toNat ≤ '9'.toNat := of_decide_eq_true hc.2
  have hnot : c.toNat ≠ '0'.toNat := fun h => hne (Char.toNat_inj.mp h)
  have hwidth : '9'.toNat = '0'.toNat + 9 := by decide
  rw [digitsValue_singleton]
  omega

theorem pow_le_digitsValue (hc : Text.isDigit c = true) (hne : c ≠ '0') (ds : List Char) :
    10 ^ ds.length ≤ digitsValue (c :: ds) := by
  have hpos := (digitsValue_singleton_bounds hc hne).1
  rw [← List.singleton_append, digitsValue_append]
  exact Nat.le_add_right_of_le (Nat.le_mul_of_pos_right _ hpos)

theorem digitsValue_concat_mod (hc : Text.isDigit c = true) (hne : c ≠ '0') (cs : List Char) :
    digitsValue (cs ++ [c]) % 10 ≠ 0 := by
  have hbounds := digitsValue_singleton_bounds hc hne
  rw [digitsValue_append, List.length_singleton]
  omega

/-! ### The zeros around the significant digits -/

/-- Zeros in front, of which there may be none. -/
theorem eq_zeros_append (cs : List Char) :
    ∃ z, cs = List.replicate z '0' ++ cs.dropWhile isZeroDigit := by
  have hzeros : ∀ c ∈ cs.takeWhile isZeroDigit, c = '0' := by
    intro c hc
    have hzero : isZeroDigit c = true := List.mem_takeWhile_imp hc
    exact beq_iff_eq.mp hzero
  refine ⟨(cs.takeWhile isZeroDigit).length, ?_⟩
  rw [← List.eq_replicate_of_mem hzeros, List.takeWhile_append_dropWhile]

theorem head?_dropWhile_zero (cs : List Char) : (cs.dropWhile isZeroDigit).head? ≠ some '0' := by
  intro h
  have hnot := List.head?_dropWhile_not isZeroDigit cs
  rw [h] at hnot
  exact absurd hnot (by decide)

/-- **The zeros around the significant digits.** -/
theorem exists_significant (cs : List Char) :
    ∃ z ds t, cs = List.replicate z '0' ++ (ds ++ List.replicate t '0') ∧
      ds.length = significantDigits cs ∧ ds.head? ≠ some '0' ∧ ds.getLast? ≠ some '0' := by
  obtain ⟨z, hz⟩ := eq_zeros_append cs
  obtain ⟨t, ht⟩ := eq_zeros_append (cs.dropWhile isZeroDigit).reverse
  have hlast := head?_dropWhile_zero (cs.dropWhile isZeroDigit).reverse
  have hhead := head?_dropWhile_zero cs
  unfold significantDigits
  generalize (cs.dropWhile isZeroDigit).reverse.dropWhile isZeroDigit = rest at ht hlast ⊢
  have hends : cs.dropWhile isZeroDigit = rest.reverse ++ List.replicate t '0' := by
    rw [← List.reverse_replicate, ← List.reverse_append, ← ht, List.reverse_reverse]
  refine ⟨z, rest.reverse, t, ?_, List.length_reverse, ?_, ?_⟩
  · rw [← hends]
    exact hz
  · rw [hends] at hhead
    cases hrest : rest.reverse with
    | nil => exact nofun
    | cons c ds =>
      rw [hrest] at hhead
      exact hhead
  · rwa [List.getLast?_reverse]

/-- A number that does not end in a zero is the smallest one with its digits. -/
theorem le_of_shift {m t : Nat} (hlast : m % 10 ≠ 0) (h : 10 ^ t * m = d * 10 ^ e) : m ≤ d := by
  rcases Nat.lt_or_ge t e with hlt | hge
  · obtain ⟨k, rfl⟩ := Nat.exists_eq_add_of_lt hlt
    have hm : m = d * 10 ^ k * 10 := by
      refine Nat.eq_of_mul_eq_mul_left (Nat.pow_pos (by decide) : 0 < 10 ^ t) ?_
      rw [h, Nat.pow_succ, Nat.pow_add]
      ring
    omega
  · obtain ⟨k, rfl⟩ := Nat.exists_eq_add_of_le hge
    have hd : d = 10 ^ k * m := by
      refine Nat.eq_of_mul_eq_mul_right (Nat.pow_pos (by decide) : 0 < 10 ^ e) ?_
      rw [← h, Nat.pow_add]
      ring
    rw [hd]
    exact Nat.le_mul_of_pos_left m (Nat.pow_pos (by decide))

/-- **The significant digits are as few as they can be.** -/
theorem significantDigits_le (hdigits : ∀ c ∈ cs, Text.isDigit c = true)
    (hvalue : digitsValue cs = d * 10 ^ e) (hd : d < 10 ^ n) : significantDigits cs ≤ n := by
  obtain ⟨z, ds, t, hcs, hlength, hhead, hlast⟩ := exists_significant cs
  rw [← hlength]
  have hds : ∀ c ∈ ds, Text.isDigit c = true := fun c hc =>
    hdigits c (hcs ▸ List.mem_append_right _ (List.mem_append_left _ hc))
  have hshift : 10 ^ t * digitsValue ds = d * 10 ^ e := by
    rw [← hvalue, hcs, digitsValue_append, digitsValue_append, digitsValue_replicate_zero,
      digitsValue_replicate_zero, List.length_replicate, Nat.mul_zero, Nat.zero_add, Nat.add_zero]
  cases ds with
  | nil => exact Nat.zero_le n
  | cons c rest =>
    have hfirst : c ≠ '0' := fun h => hhead (congrArg some h)
    have hlow := pow_le_digitsValue (hds c List.mem_cons_self) hfirst rest
    have hle : digitsValue (c :: rest) ≤ d := by
      rcases List.eq_nil_or_concat (c :: rest) with hnil | ⟨init, last, hconcat⟩
      · cases hnil
      · rw [List.concat_eq_append] at hconcat
        have hne : last ≠ '0' := by
          rintro rfl
          rw [hconcat, List.getLast?_concat] at hlast
          exact hlast rfl
        have hmem : last ∈ c :: rest := hconcat ▸ List.mem_append_right _ List.mem_cons_self
        refine le_of_shift ?_ hshift
        rw [hconcat]
        exact digitsValue_concat_mod (hds last hmem) hne init
    have hpow : 10 ^ rest.length < 10 ^ n := Nat.lt_of_le_of_lt (Nat.le_trans hlow hle) hd
    exact (Nat.pow_lt_pow_iff_right (by decide)).mp hpow

end Binary64

end SheetFormula
