import SheetFormula.Proofs.BaseLibrary.Answers
import SheetFormula.Proofs.Binary64.Whole
import SheetFormula.Proofs.Text.Windows

/-!
# Cuts of a text

`LEFT`, `RIGHT` and `MID` make windows of their text (`BaseLibrary.left_of_truncate`,
`BaseLibrary.right_of_truncate`, `BaseLibrary.mid_of_truncate`), so the laws of windows are laws of
these functions (`BaseLibrary.cuts_consistent`): what they cut a text into makes up the text, and
cuts at one place fall between the same characters.

Counts and positions are whole numbers up to `2⁵³`. A sum of them may lie beyond and be rounded,
which makes no difference to a text of fewer bytes (`BaseLibrary.mid_whole`).
-/

namespace SheetFormula

/-- The call with other arguments. -/
def Call.on (c : Call) (arguments : List Value) : Call := { c with values := arguments }

namespace BaseLibrary

open Text
open Binary64 (windowLimit)

variable {c : Call} {t : String} {x y : Binary64} {i n s : Nat}

/-! ### Counts and positions -/

theorem count_of_truncate {index : Nat} {default : Binary64} (hx : c.numberOr index default = .ok x)
    (hn : x.truncate = (n : Int)) : count c index default = .ok n := by
  have hcount : count c index default =
      if x.truncate < 0 then refuse (c.name ++ " count must not be negative")
      else .ok (clamped x.truncate) := by
    rw [count, hx]
    rfl
  rw [hcount, hn, if_neg (by omega)]
  rfl

theorem count_of_truncate_neg {index : Nat} {default : Binary64}
    (hx : c.numberOr index default = .ok x) (hneg : x.truncate < 0) :
    count c index default = refuse (c.name ++ " count must not be negative") := by
  rw [count, hx]
  exact if_pos hneg

theorem truncate_le_greatest (x : Binary64) : x.truncate ≤ Word.greatest := by
  have hsaturated : ∀ n, Word.saturated n ≤ Word.greatest := fun n => by
    unfold Word.saturated Word.least Word.greatest
    omega
  cases x with
  | nan => decide
  | infinite negative => cases negative <;> decide
  | finite negative units h => exact hsaturated _

/-- A position that is counted from one lies so much less one from the start. -/
theorem natural?_offset (hs : x.truncate = ((s + 1 : Nat) : Int)) :
    natural? (offset x.truncate) = some s := by
  have hle := truncate_le_greatest x
  have hoffset : offset x.truncate = s := by
    rw [hs] at hle ⊢
    unfold offset Word.saturated Word.least at *
    omega
  rw [hoffset, natural?, if_pos (by omega)]
  rfl

/-- Words reach so far that a position is moved on by a count in full. -/
theorem advanced_of_truncate (hs : x.truncate = ((s + 1 : Nat) : Int))
    (hn : y.truncate = (n : Int)) : advanced s n = s + n := by
  have hx := truncate_le_greatest x
  have hy := truncate_le_greatest y
  unfold advanced Word.greatest Word.limit at *
  omega

/-! ### The functions as windows -/

/-- The piece between two floors is a window. -/
theorem piece_floorBoundary (cs : List Char) {j : Nat} (h : i ≤ j) :
    piece cs (floorBoundary cs i) (floorBoundary cs j) =
      .ok (.text (String.ofList (window cs i j))) := by
  rw [piece, slice?_floorBoundary cs h]
  rfl

/-- `LEFT` makes the window up to its count. -/
theorem left_of_truncate (hn : x.truncate = (n : Int)) :
    left (c.on [.text t, .number x]) = .ok (.text (String.ofList (window t.toList 0 n))) := by
  have hcount : count (c.on [.text t, .number x]) 1 1 = .ok n := count_of_truncate rfl hn
  have hpiece := piece_floorBoundary t.toList (Nat.zero_le n)
  rw [(isBoundary_zero t.toList).floorBoundary_eq] at hpiece
  calc left (c.on [.text t, .number x])
      = count (c.on [.text t, .number x]) 1 1 >>= fun n =>
          piece t.toList 0 (floorBoundary t.toList n) := rfl
    _ = piece t.toList 0 (floorBoundary t.toList n) := by rw [hcount]; rfl
    _ = .ok (.text (String.ofList (window t.toList 0 n))) := hpiece

/-- `RIGHT` makes the window of its count before the end. -/
theorem right_of_truncate (hn : x.truncate = (n : Int)) :
    right (c.on [.text t, .number x]) = .ok (.text (String.ofList
      (window t.toList (byteLength t.toList - n) (byteLength t.toList)))) := by
  have hcount : count (c.on [.text t, .number x]) 1 1 = .ok n := count_of_truncate rfl hn
  have hpiece := piece_floorBoundary t.toList (Nat.sub_le (byteLength t.toList) n)
  rw [(isBoundary_byteLength t.toList).floorBoundary_eq] at hpiece
  calc right (c.on [.text t, .number x])
      = count (c.on [.text t, .number x]) 1 1 >>= fun n =>
          piece t.toList (floorBoundary t.toList (byteLength t.toList - n))
            (byteLength t.toList) := rfl
    _ = _ := by rw [hcount]; exact hpiece

/-- `MID` counts before it looks at its position. -/
theorem mid_on (c : Call) (t : String) (x y : Binary64) :
    mid (c.on [.text t, .number x, .number y]) =
      count (c.on [.text t, .number x, .number y]) 2 1 >>= fun length =>
        match natural? (offset x.truncate) with
        | none => .ok (.text "")
        | some start =>
          if byteLength t.toList ≤ start then .ok (.text "")
          else
            piece t.toList (floorBoundary t.toList start)
              (floorBoundary t.toList (advanced start length)) := rfl

/-- `MID` makes the window of its count from its position on, also where this is empty as the
position lies beyond the end. -/
theorem mid_of_truncate (hs : x.truncate = ((s + 1 : Nat) : Int)) (hn : y.truncate = (n : Int)) :
    mid (c.on [.text t, .number x, .number y]) =
      .ok (.text (String.ofList (window t.toList s (s + n)))) := by
  have hcount : count (c.on [.text t, .number x, .number y]) 2 1 = .ok n :=
    count_of_truncate rfl hn
  have hmid : mid (c.on [.text t, .number x, .number y]) =
      if byteLength t.toList ≤ s then .ok (.text "")
      else
        piece t.toList (floorBoundary t.toList s) (floorBoundary t.toList (advanced s n)) := by
    rw [mid_on, hcount, natural?_offset hs]
    rfl
  rw [hmid]
  split
  · next hend => rw [window_of_byteLength_le hend (Nat.le_add_right s n)]
  · rw [advanced_of_truncate hs hn]
    exact piece_floorBoundary t.toList (Nat.le_add_right s n)

/-! ### Negative counts -/

theorem left_of_truncate_neg (hneg : x.truncate < 0) :
    left (c.on [.text t, .number x]) = refuse (c.name ++ " count must not be negative") := by
  have hcount : count (c.on [.text t, .number x]) 1 1 =
      refuse (c.name ++ " count must not be negative") := count_of_truncate_neg rfl hneg
  calc left (c.on [.text t, .number x])
      = count (c.on [.text t, .number x]) 1 1 >>= fun n =>
          piece t.toList 0 (floorBoundary t.toList n) := rfl
    _ = refuse (c.name ++ " count must not be negative") := by rw [hcount]; rfl

theorem mid_of_truncate_neg (hneg : y.truncate < 0) :
    mid (c.on [.text t, .number x, .number y]) =
      refuse (c.name ++ " count must not be negative") := by
  have hcount : count (c.on [.text t, .number x, .number y]) 2 1 =
      refuse (c.name ++ " count must not be negative") := count_of_truncate_neg rfl hneg
  rw [mid_on, hcount]
  rfl

/-! ### Whole numbers -/

/-- A whole number counts as itself, or it is rounded and lies beyond a limit in any case. -/
theorem exists_truncate_ofNat {limit : Nat}
    (h : n ≤ windowLimit ∨ limit < windowLimit) :
    ∃ k : Nat, (Binary64.ofNat n).truncate = k ∧ (k = n ∨ (limit < k ∧ limit < n)) := by
  rcases Nat.le_total n windowLimit with hn | hn
  · exact ⟨n, Binary64.truncate_ofNat hn, .inl rfl⟩
  · rcases h with h | h
    · exact ⟨n, Binary64.truncate_ofNat h, .inl rfl⟩
    · have hle := Binary64.windowLimit_le_truncate_ofNat hn
      refine ⟨(Binary64.ofNat n).truncate.toNat, (Int.toNat_of_nonneg ?_).symm, .inr ⟨?_, ?_⟩⟩ <;>
        omega

/-- Positions that differ have one floor if they lie beyond the end. -/
theorem floorBoundary_congr {cs : List Char} {p q : Nat}
    (h : p = q ∨ (byteLength cs ≤ p ∧ byteLength cs ≤ q)) :
    floorBoundary cs p = floorBoundary cs q := by
  rcases h with rfl | ⟨hp, hq⟩
  · rfl
  · rw [floorBoundary_of_byteLength_le hp, floorBoundary_of_byteLength_le hq]

/-- **`MID` on whole numbers**, which are held as they are or lie beyond the text. -/
theorem mid_whole (hs : 1 ≤ s)
    (hstart : s ≤ windowLimit ∨ byteLength t.toList < windowLimit)
    (hcount : n ≤ windowLimit ∨ byteLength t.toList < windowLimit) :
    mid (c.on [.text t, .number (.ofNat s), .number (.ofNat n)]) =
      .ok (.text (String.ofList (window t.toList (s - 1) (s - 1 + n)))) := by
  obtain ⟨k, hk, hks⟩ := exists_truncate_ofNat hstart
  obtain ⟨l, hl, hln⟩ := exists_truncate_ofNat hcount
  have hposition : (Binary64.ofNat s).truncate = ((k - 1 + 1 : Nat) : Int) := by
    rw [hk]
    omega
  have hwindow : window t.toList (k - 1) (k - 1 + l) = window t.toList (s - 1) (s - 1 + n) :=
    window_congr (floorBoundary_congr (by omega)) (floorBoundary_congr (by omega))
  rw [mid_of_truncate hposition hl, hwindow]

/-! ### The laws -/

/-- A base function **makes** a text of some arguments, in a call that is like `c` otherwise. -/
def Makes (f : Call → Computation Value) (c : Call) (arguments : List Value) (u : String) : Prop :=
  f (c.on arguments) = .ok (.text u)

/-- The laws of the cuts of a text. A whole number stands for the number nearest to it, which up to
`2⁵³` is it itself. -/
structure CutsAgree (c : Call) (t : String) : Prop where
  /-- `LEN(t)` is the number of bytes. -/
  len_eq : len (c.on [.text t]) = .ok (.number (.ofNat t.utf8ByteSize))
  /-- `LEFT(t;n)` is the longest beginning in whole characters of at most `n` bytes. -/
  left_longest : ∀ n ≤ windowLimit, ∃ u, Makes left c [.text t, .number (.ofNat n)] u ∧
    u.toList <+: t.toList ∧ u.utf8ByteSize ≤ n ∧
    ∀ v : String, v.toList <+: t.toList → v.utf8ByteSize ≤ n → v.utf8ByteSize ≤ u.utf8ByteSize
  /-- `RIGHT(t;n)` is the shortest ending in whole characters of at least `n` bytes, or of all. -/
  right_shortest : ∀ n ≤ windowLimit, ∃ u, Makes right c [.text t, .number (.ofNat n)] u ∧
    u.toList <:+ t.toList ∧ min n t.utf8ByteSize ≤ u.utf8ByteSize ∧
    ∀ v : String, v.toList <:+ t.toList → min n t.utf8ByteSize ≤ v.utf8ByteSize →
      u.utf8ByteSize ≤ v.utf8ByteSize
  /-- `LEFT(t;k) & RIGHT(t;LEN(t)-k)` is the text. -/
  left_right : ∀ k ≤ t.utf8ByteSize, k ≤ windowLimit → t.utf8ByteSize - k ≤ windowLimit →
    ∃ u v, Makes left c [.text t, .number (.ofNat k)] u ∧
      Makes right c [.text t, .number (.ofNat (t.utf8ByteSize - k))] v ∧ u ++ v = t
  /-- `MID(t;s;n) & MID(t;s+n;m)` is `MID(t;s;n+m)`. -/
  mid_mid : ∀ s n m, 1 ≤ s → s ≤ windowLimit → n ≤ windowLimit → m ≤ windowLimit →
    (s + n ≤ windowLimit ∧ n + m ≤ windowLimit) ∨ t.utf8ByteSize < windowLimit →
    ∃ u v, Makes mid c [.text t, .number (.ofNat s), .number (.ofNat n)] u ∧
      Makes mid c [.text t, .number (.ofNat (s + n)), .number (.ofNat m)] v ∧
      Makes mid c [.text t, .number (.ofNat s), .number (.ofNat (n + m))] (u ++ v)
  /-- `LEFT(t;x)` is `MID(t;1;x)`, also where both refuse a negative count under one name. -/
  left_eq_mid : ∀ x, left (c.on [.text t, .number x]) = mid (c.on [.text t, .number 1, .number x])
  /-- `RIGHT(t;n)` is `MID(t;LEN(t)-n+1;n)`. -/
  right_eq_mid : ∀ n ≤ t.utf8ByteSize, n ≤ windowLimit → t.utf8ByteSize - n + 1 ≤ windowLimit →
    right (c.on [.text t, .number (.ofNat n)]) =
      mid (c.on [.text t, .number (.ofNat (t.utf8ByteSize - n + 1)), .number (.ofNat n)])

/-- **`LEFT`, `RIGHT` and `MID` cut every text consistently** and never through a character. -/
theorem cuts_consistent (c : Call) (t : String) : CutsAgree c t where
  len_eq := rfl
  left_longest n hn := by
    obtain ⟨after, hcut, hlength⟩ := exists_window_zero t.toList n
    refine ⟨_, left_of_truncate (Binary64.truncate_ofNat hn), ?_, ?_, fun v hv hvn => ?_⟩
    · rw [String.toList_ofList]
      exact ⟨after, hcut.symm⟩
    · rw [utf8ByteSize_ofList, hlength]
      exact floorBoundary_le _ _
    · rw [← byteLength_toList] at hvn ⊢
      rw [utf8ByteSize_ofList]
      exact byteLength_le_of_prefix hv hvn
  right_shortest n hn := by
    obtain ⟨before, hcut, hlength⟩ :=
      exists_window_end t.toList (byteLength t.toList - n) (Nat.sub_le _ _)
    refine ⟨_, right_of_truncate (Binary64.truncate_ofNat hn), ?_, ?_, fun v hv hvn => ?_⟩
    · rw [String.toList_ofList]
      exact ⟨before, hcut.symm⟩
    · have hfloor := floorBoundary_le t.toList (byteLength t.toList - n)
      have hwhole := congrArg byteLength hcut
      rw [byteLength_append] at hwhole
      rw [utf8ByteSize_ofList, ← byteLength_toList]
      omega
    · rw [← byteLength_toList, ← byteLength_toList] at hvn
      rw [utf8ByteSize_ofList, ← byteLength_toList]
      exact le_byteLength_of_suffix hv hvn
  left_right k hk hlimit hrest := by
    rw [← byteLength_toList] at hk hrest ⊢
    refine ⟨_, _, left_of_truncate (Binary64.truncate_ofNat hlimit),
      right_of_truncate (Binary64.truncate_ofNat hrest), ?_⟩
    rw [Nat.sub_sub_self hk, ← String.ofList_append, window_append (Nat.zero_le k) hk,
      window_zero_of_byteLength_le (Nat.le_refl _), String.ofList_toList]
  mid_mid s n m hs hslimit hn hm hsums := by
    rw [← byteLength_toList] at hsums
    have hnext : s + n - 1 = s - 1 + n := by omega
    refine ⟨_, _, mid_whole hs (.inl hslimit) (.inl hn),
      mid_whole (by omega) (hsums.imp_left And.left) (.inl hm), ?_⟩
    rw [Makes, mid_whole hs (.inl hslimit) (hsums.imp_left And.right), ← String.ofList_append,
      hnext, window_append (Nat.le_add_right _ _) (Nat.le_add_right _ _), Nat.add_assoc]
  left_eq_mid x := by
    rcases Int.lt_or_le x.truncate 0 with hneg | hnonneg
    · rw [left_of_truncate_neg hneg, mid_of_truncate_neg hneg]
    · obtain ⟨n, hn⟩ := Int.eq_ofNat_of_zero_le hnonneg
      have hone : (1 : Binary64).truncate = ((0 + 1 : Nat) : Int) :=
        Binary64.truncate_ofNat (by decide)
      rw [left_of_truncate hn, mid_of_truncate hone hn, Nat.zero_add]
  right_eq_mid n hn hlimit hrest := by
    rw [← byteLength_toList] at hn hrest ⊢
    have hstop : byteLength t.toList - n + n = byteLength t.toList := Nat.sub_add_cancel hn
    rw [right_of_truncate (Binary64.truncate_ofNat hlimit),
      mid_of_truncate (Binary64.truncate_ofNat hrest) (Binary64.truncate_ofNat hlimit), hstop]

/-- A cut that falls into the second character of a text leaves it to the second of two pieces. -/
theorem cuts_consistent_accented :
    ∃ u v, Makes mid ⟨"MID", [], none⟩ [.text "héllo", .number 1, .number 2] u ∧
      Makes mid ⟨"MID", [], none⟩ [.text "héllo", .number 3, .number 2] v ∧ u ++ v = "hél" := by
  obtain ⟨u, v, hu, hv, hwhole⟩ := (cuts_consistent ⟨"MID", [], none⟩ "héllo").mid_mid 1 2 2
    (by decide) (by decide) (by decide) (by decide) (.inl (by decide))
  have hpiece : Makes mid ⟨"MID", [], none⟩ [.text "héllo", .number 1, .number 4] "hél" := by
    unfold Makes
    decide +kernel
  exact ⟨u, v, hu, hv, Value.text.inj (Except.ok.inj (hwhole.symm.trans hpiece))⟩

end BaseLibrary

end SheetFormula
