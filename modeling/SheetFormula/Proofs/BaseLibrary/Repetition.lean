import SheetFormula.Proofs.BaseLibrary.Cuts
import SheetFormula.Proofs.Evaluation.Concatenations

/-!
# Repeating a text

`REPT` writes a text as many times over as its count says (`Text.toList_repeated`), so lengths are
multiplied and counts are added (`Text.utf8ByteSize_repeated`, `Text.repeated_append`). It refuses a
count that is negative, and one that would make more bytes than its limit allows. Counts reach up to
`2⁶³ - 1`, so the product of the count and the length of the text may be far beyond all words, and
it is the whole product that is held against the limit (`BaseLibrary.rept_laws`).
-/

namespace SheetFormula

/-! ### Copies of a text -/

namespace Text

theorem repeated_empty (n : Nat) : repeated "" n = "" := rfl

/-- **A repeated text consists of its copies.** -/
theorem toList_repeated (s : String) (n : Nat) :
    (repeated s n).toList = (List.replicate n s.toList).flatten := by
  unfold repeated
  split
  · next hs =>
    rw [String.isEmpty_iff.mp hs, String.toList_empty, List.flatten_replicate_nil]
  · induction n with
    | zero => rfl
    | succ n ih =>
      rw [Nat.repeat, String.toList_append, ih, List.replicate_succ', List.flatten_append,
        List.flatten_singleton]

theorem byteLength_flatten_replicate (cs : List Char) (n : Nat) :
    byteLength (List.replicate n cs).flatten = n * byteLength cs := by
  induction n with
  | zero => rw [List.replicate_zero, List.flatten_nil, byteLength_nil, Nat.zero_mul]
  | succ n ih =>
    rw [List.replicate_succ, List.flatten_cons, byteLength_append, ih, Nat.succ_mul, Nat.add_comm]

/-- The length of a repeated text is that of the text as many times over. -/
theorem utf8ByteSize_repeated (s : String) (n : Nat) :
    (repeated s n).utf8ByteSize = n * s.utf8ByteSize := by
  rw [← byteLength_toList, toList_repeated, byteLength_flatten_replicate, byteLength_toList]

/-- Copies after copies are as many copies together. -/
theorem repeated_append (s : String) (m n : Nat) :
    repeated s m ++ repeated s n = repeated s (m + n) := by
  apply String.toList_inj.mp
  rw [String.toList_append, toList_repeated, toList_repeated, toList_repeated,
    ← List.flatten_append, List.replicate_append_replicate]

end Text

namespace BaseLibrary

open Text
open Binary64 (windowLimit)

variable {c : Call} {t u : String} {x : Binary64} {a b n : Nat}

/-! ### The outcome by the count -/

theorem rept_on (c : Call) (t : String) (x : Binary64) :
    rept (c.on [.text t, .number x]) =
      count (c.on [.text t, .number x]) 1 0 >>= fun n =>
        if t.utf8ByteSize * n ≤ repeatLimit then .ok (.text (repeated t n))
        else refuse ("REPT result exceeds " ++ toString repeatLimit ++ " bytes") := rfl

/-- A count that is not negative is that of the copies, if the limit allows for so many. -/
theorem rept_of_truncate (hn : x.truncate = (n : Int)) :
    rept (c.on [.text t, .number x]) =
      if n * t.utf8ByteSize ≤ repeatLimit then .ok (.text (repeated t n))
      else refuse ("REPT result exceeds " ++ toString repeatLimit ++ " bytes") := by
  have hcount : count (c.on [.text t, .number x]) 1 0 = .ok n := count_of_truncate rfl hn
  rw [rept_on, hcount, Nat.mul_comm n]
  rfl

theorem rept_of_truncate_neg (hneg : x.truncate < 0) :
    rept (c.on [.text t, .number x]) = refuse (c.name ++ " count must not be negative") := by
  have hcount : count (c.on [.text t, .number x]) 1 0 =
      refuse (c.name ++ " count must not be negative") := count_of_truncate_neg rfl hneg
  rw [rept_on, hcount]
  rfl

theorem makes_rept (hn : x.truncate = (n : Int)) (hlimit : n * t.utf8ByteSize ≤ repeatLimit) :
    Makes rept c [.text t, .number x] (repeated t n) := by
  rw [Makes, rept_of_truncate hn, if_pos hlimit]

/-- There is no limit to how often the empty text is repeated. -/
theorem makes_rept_empty (hx : 0 ≤ x.truncate) : Makes rept c [.text "", .number x] "" := by
  obtain ⟨n, hn⟩ := Int.eq_ofNat_of_zero_le hx
  have hnone : n * "".utf8ByteSize ≤ repeatLimit := by
    rw [String.utf8ByteSize_empty, Nat.mul_zero]
    exact Nat.zero_le _
  have hmakes : Makes rept c [.text "", .number x] (repeated "" n) := makes_rept hn hnone
  rwa [repeated_empty] at hmakes

/-- **`REPT` refuses just the negative counts and those with which the whole product of count and
length is beyond the limit.** -/
theorem rept_eq_error_iff (c : Call) (t : String) (x : Binary64) :
    (∃ e, rept (c.on [.text t, .number x]) = .error e) ↔
      x.truncate < 0 ∨ (repeatLimit : Int) < x.truncate * t.utf8ByteSize := by
  rcases Int.lt_or_le x.truncate 0 with hneg | hnonneg
  · exact iff_of_true ⟨_, rept_of_truncate_neg hneg⟩ (.inl hneg)
  · obtain ⟨n, hn⟩ := Int.eq_ofNat_of_zero_le hnonneg
    have hproduct : x.truncate * t.utf8ByteSize = ((n * t.utf8ByteSize : Nat) : Int) := by
      rw [hn, Int.natCast_mul]
    rw [rept_of_truncate hn, hproduct]
    split
    · next hlimit => exact iff_of_false (fun ⟨e, he⟩ => by cases he) (by omega)
    · next hlimit => exact iff_of_true ⟨_, rfl⟩ (.inr (by omega))

/-! ### Counts that are added -/

/-- The sum of two counts counts as their exact sum, or the text is empty. -/
theorem makes_rept_add (ha : a ≤ windowLimit) (hb : b ≤ windowLimit)
    (hlimit : (a + b) * t.utf8ByteSize ≤ repeatLimit) :
    Makes rept c [.text t, .number ((Binary64.ofNat a).add (.ofNat b))] (repeated t (a + b)) := by
  rw [Binary64.ofNat_add ha hb]
  rcases Nat.le_total (a + b) windowLimit with hsum | hsum
  · exact makes_rept (Binary64.truncate_ofNat hsum) hlimit
  · -- the limit allows for so many copies of the empty text only
    have hlt : repeatLimit < windowLimit := by decide
    have hempty : t.utf8ByteSize = 0 := by
      by_contra hne
      have hle := Nat.mul_le_mul_left (a + b) (Nat.one_le_iff_ne_zero.mpr hne)
      omega
    obtain rfl := String.utf8ByteSize_eq_zero_iff.mp hempty
    have hbeyond := Binary64.windowLimit_le_truncate_ofNat hsum
    rw [repeated_empty]
    exact makes_rept_empty (Int.le_trans (Int.natCast_nonneg _) hbeyond)

section Formulas

open SheetFormula.Formula SheetFormula.Evaluation SheetFormula.Sequence

variable {σ : Type} {draw : σ → Nat × σ} {token : Option CancellationToken} {s : σ}

/-- In formulas `REPT` is found in the base library. -/
theorem environment_get_rept (draw : σ → Nat × σ) :
    (environment draw).get "REPT" = some (.function ((BaseFunction.computed rept).native draw)) :=
  rfl

/-- A call of a base function has the value that the function computes of the evaluated
arguments. -/
theorem evaluate_computed {compute : Call → Computation Value} {name : String} {fs : List Formula}
    {values : List Value} {v : Value} {s' : σ}
    (hname : (environment draw).get name =
      some (.function ((BaseFunction.computed compute).native draw)))
    (hvalues : evaluateAll (environment draw) token fs s = .ok values s')
    (h : compute ⟨name, values, token⟩ = .ok v) :
    (call name fs).evaluate (environment draw) token s = .ok v s' := by
  rw [evaluate, resolveFunction_eq hname, pure_bind, bind_eq_of_ok hvalues]
  simp only [invoke, BaseFunction.native, h]

theorem evaluate_rept {f : Formula} (hf : f.evaluate (environment draw) token s = .ok (.number x) s)
    (h : Makes rept ⟨"REPT", [], token⟩ [.text t, .number x] u) :
    (call "REPT" [literal (.text t), f]).evaluate (environment draw) token s = .ok (.text u) s := by
  have htext : (literal (.text t)).evaluate (environment draw) token s = .ok (.text t) s := rfl
  have hcount : evaluateAll (environment draw) token [f] s = .ok [.number x] s := by
    rw [evaluateAll, bind_eq_of_ok hf]
    rfl
  have hvalues : evaluateAll (environment draw) token [literal (.text t), f] s =
      .ok [.text t, .number x] s := by
    rw [evaluateAll, bind_eq_of_ok htext, bind_eq_of_ok hcount]
    rfl
  exact evaluate_computed (environment_get_rept draw) hvalues h

/-- The formula `REPT(t;a) & REPT(t;b)`. -/
def repeatedApart (t : String) (x y : Binary64) : Formula :=
  .binary .concat (call "REPT" [literal (.text t), literal (.number x)])
    (call "REPT" [literal (.text t), literal (.number y)])

/-- The formula `REPT(t;a+b)`. -/
def repeatedTogether (t : String) (x y : Binary64) : Formula :=
  call "REPT" [literal (.text t),
    .binary (.arithmetic .add) (literal (.number x)) (literal (.number y))]

end Formulas

/-! ### The laws -/

/-- The laws of `REPT` on a text, in calls that are like `c` otherwise. -/
structure RepeatsText (c : Call) (t : String) : Prop where
  /-- A count is refused just if it is negative or its whole product with the length of the text is
  beyond the limit. -/
  refused_iff : ∀ x, (∃ e, rept (c.on [.text t, .number x]) = .error e) ↔
    x.truncate < 0 ∨ (repeatLimit : Int) < x.truncate * t.utf8ByteSize
  /-- Otherwise `REPT(t;x)` consists of the copies of the text, and `LEN(REPT(t;x))` is the
  product. -/
  copies : ∀ x, ∀ n : Nat, x.truncate = (n : Int) → n * t.utf8ByteSize ≤ repeatLimit →
    ∃ u, Makes rept c [.text t, .number x] u ∧ u.toList = (List.replicate n t.toList).flatten ∧
      u.utf8ByteSize = n * t.utf8ByteSize ∧
      len (c.on [.text u]) = .ok (.number (.ofNat (n * t.utf8ByteSize)))
  /-- `REPT(t;a) & REPT(t;b)` is `REPT(t;a+b)`. -/
  additive : ∀ a b, a ≤ windowLimit → b ≤ windowLimit → (a + b) * t.utf8ByteSize ≤ repeatLimit →
    ∀ {σ : Type} (draw : σ → Nat × σ) (token : Option CancellationToken) (s : σ), ∃ u,
      (repeatedApart t (.ofNat a) (.ofNat b)).evaluate (environment draw) token s =
          .ok (.text u) s ∧
        (repeatedTogether t (.ofNat a) (.ofNat b)).evaluate (environment draw) token s =
          .ok (.text u) s
  /-- The empty text is repeated to the empty text, however often. -/
  empty : t = "" → ∀ x, 0 ≤ x.truncate → Makes rept c [.text t, .number x] ""

/-- **`REPT` is bounded and additive**, on every text and with every number. -/
theorem rept_laws (c : Call) (t : String) : RepeatsText c t where
  refused_iff := rept_eq_error_iff c t
  copies x n hn hlimit := by
    refine ⟨_, makes_rept hn hlimit, toList_repeated t n, utf8ByteSize_repeated t n, ?_⟩
    rw [← utf8ByteSize_repeated]
    rfl
  additive a b ha hb hlimit σ draw token s := by
    have hleft : a * t.utf8ByteSize ≤ repeatLimit :=
      Nat.le_trans (Nat.mul_le_mul_right _ (Nat.le_add_right a b)) hlimit
    have hright : b * t.utf8ByteSize ≤ repeatLimit :=
      Nat.le_trans (Nat.mul_le_mul_right _ (Nat.le_add_left b a)) hlimit
    have hapart : (repeatedApart t (.ofNat a) (.ofNat b)).evaluate (environment draw) token s =
        .ok (.text (repeated t a ++ repeated t b)) s :=
      Formula.evaluate_concat (evaluate_rept rfl (makes_rept (Binary64.truncate_ofNat ha) hleft))
        (evaluate_rept rfl (makes_rept (Binary64.truncate_ofNat hb) hright))
    rw [repeated_append] at hapart
    exact ⟨_, hapart, evaluate_rept rfl (makes_rept_add ha hb hlimit)⟩
  empty ht x hx := by
    rw [ht]
    exact makes_rept_empty hx

/-- `REPT("abcd";2^62)` would make `2⁶⁴` bytes, which are none modulo `2⁶⁴`, and is refused. The
most bytes that are made are 16777216, by `REPT("abcd";4194304)`; one copy more is refused. -/
theorem rept_laws_beyond_words :
    let refused (n : Nat) := ∃ e,
      rept (Call.on ⟨"REPT", [], none⟩ [.text "abcd", .number (.ofNat n)]) = .error e
    2 ^ 62 * "abcd".utf8ByteSize % 2 ^ 64 = 0 ∧ refused (2 ^ 62) ∧
      (∃ u, Makes rept ⟨"REPT", [], none⟩ [.text "abcd", .number (.ofNat 4194304)] u ∧
        u.utf8ByteSize = 16777216) ∧ refused 4194305 := by
  intro refused
  have hlaws := rept_laws ⟨"REPT", [], none⟩ "abcd"
  have hrefused (n : Nat) (hn : (repeatLimit : Int) <
      (Binary64.ofNat n).truncate * ("abcd".utf8ByteSize : Int)) : refused n :=
    (hlaws.refused_iff (.ofNat n)).mpr (.inr hn)
  have hcount : (Binary64.ofNat 4194304).truncate = (4194304 : Nat) :=
    Binary64.truncate_ofNat (by decide)
  obtain ⟨u, hu, -, hsize, -⟩ := hlaws.copies (.ofNat 4194304) 4194304 hcount (by decide)
  exact ⟨by decide +kernel, hrefused _ (by decide +kernel), ⟨u, hu, hsize⟩,
    hrefused _ (by decide +kernel)⟩

end BaseLibrary

end SheetFormula
