import SheetFormula.Proofs.Text.Boundaries

/-!
# Windows of a text

The **window** of a text from one position to another is the piece between the floors of the two
(`Text.window`). Windows that follow each other make up the window over both
(`Text.window_append`), whatever characters the positions fall into. From the start a window is the
longest beginning of the text within its bytes (`Text.byteLength_le_of_prefix`), and up to the end
it is the shortest ending with so many bytes (`Text.le_byteLength_of_suffix`).
-/

namespace SheetFormula

namespace Text

variable {cs before after piece : List Char} {i j k n p : Nat}

theorem utf8ByteSize_ofList (cs : List Char) : (String.ofList cs).utf8ByteSize = byteLength cs := by
  rw [← byteLength_toList, String.toList_ofList]

/-! ### Floors of boundaries -/

theorem IsBoundary.floorBoundary_eq (h : IsBoundary cs p) : floorBoundary cs p = p :=
  Nat.le_antisymm (floorBoundary_le cs p) (h.le_floorBoundary (Nat.le_refl p))

/-- Beyond the end of a text all positions go back to it. -/
theorem floorBoundary_of_byteLength_le (h : byteLength cs ≤ p) :
    floorBoundary cs p = byteLength cs :=
  Nat.le_antisymm (isBoundary_floorBoundary cs p).le_byteLength
    ((isBoundary_byteLength cs).le_floorBoundary h)

/-- A text is cut in one way at a position. -/
theorem cut_unique {before' after' : List Char} (hcut : before ++ after = before' ++ after')
    (h : byteLength before = byteLength before') : before = before' ∧ after = after' := by
  obtain ⟨between, rfl, rfl⟩ := exists_piece_of_le hcut (Nat.le_of_eq h)
  rw [byteLength_append] at h
  have hnil : between = [] := byteLength_eq_zero.mp (by omega)
  subst hnil
  exact ⟨(List.append_nil before).symm, rfl⟩

/-! ### Windows -/

/-- The **window** of a text from one position to another: the piece between the floors of both. -/
def window (cs : List Char) (i j : Nat) : List Char :=
  (slice? cs (floorBoundary cs i) (floorBoundary cs j)).getD []

theorem slice?_floorBoundary (cs : List Char) (h : i ≤ j) :
    slice? cs (floorBoundary cs i) (floorBoundary cs j) = some (window cs i j) := by
  obtain ⟨cut, hcut⟩ := (isBoundary_floorBoundary cs i).exists_slice?
    (isBoundary_floorBoundary cs j) (floorBoundary_mono cs h)
  rw [window, hcut, Option.getD_some]

/-- Where a window stands. -/
theorem exists_window (cs : List Char) (h : i ≤ j) :
    ∃ before after, cs = before ++ (window cs i j ++ after) ∧
      floorBoundary cs i = byteLength before ∧
      floorBoundary cs j = byteLength (before ++ window cs i j) :=
  slice?_eq_some_iff.mp (slice?_floorBoundary cs h)

theorem window_eq (hcut : cs = before ++ (piece ++ after))
    (hi : floorBoundary cs i = byteLength before)
    (hj : floorBoundary cs j = byteLength (before ++ piece)) : window cs i j = piece := by
  have hslice : slice? cs (floorBoundary cs i) (floorBoundary cs j) = some piece :=
    slice?_eq_some_iff.mpr ⟨before, after, hcut, hi, hj⟩
  rw [window, hslice, Option.getD_some]

/-- A window depends on the floors of its positions only. -/
theorem window_congr {i' j' : Nat} (hi : floorBoundary cs i = floorBoundary cs i')
    (hj : floorBoundary cs j = floorBoundary cs j') : window cs i j = window cs i' j' := by
  rw [window, window, hi, hj]

/-- **Windows that follow each other** lose no character and have none twice. -/
theorem window_append (hij : i ≤ j) (hjk : j ≤ k) :
    window cs i j ++ window cs j k = window cs i k := by
  obtain ⟨before, rest, hcut, hi, hj⟩ := exists_window cs hij
  obtain ⟨upto, after, hcut', hj', hk⟩ := exists_window cs hjk
  have hcuts : (before ++ window cs i j) ++ rest = upto ++ (window cs j k ++ after) := by
    rw [List.append_assoc, ← hcut, ← hcut']
  obtain ⟨hupto, hrest⟩ := cut_unique hcuts (hj.symm.trans hj')
  have hwhole : cs = before ++ ((window cs i j ++ window cs j k) ++ after) := by
    rw [List.append_assoc, ← hrest]
    exact hcut
  refine (window_eq hwhole hi ?_).symm
  rw [← List.append_assoc, hupto]
  exact hk

/-- Beyond the end a window is empty. -/
theorem window_of_byteLength_le (hi : byteLength cs ≤ i) (hij : i ≤ j) : window cs i j = [] := by
  refine window_eq (List.append_nil cs).symm (floorBoundary_of_byteLength_le hi) ?_
  rw [List.append_nil]
  exact floorBoundary_of_byteLength_le (Nat.le_trans hi hij)

/-- The window over the whole text is the text. -/
theorem window_zero_of_byteLength_le (hj : byteLength cs ≤ j) : window cs 0 j = cs := by
  have hcut : cs = [] ++ (cs ++ []) := (List.append_nil cs).symm
  exact window_eq hcut (isBoundary_zero cs).floorBoundary_eq (floorBoundary_of_byteLength_le hj)

/-- The window between two boundaries is the piece between them. -/
theorem window_piece (hcut : cs = before ++ (piece ++ after)) :
    window cs (byteLength before) (byteLength before + byteLength piece) = piece := by
  have hstart : IsBoundary cs (byteLength before) := ⟨before, piece ++ after, hcut, rfl⟩
  have hstop : IsBoundary cs (byteLength (before ++ piece)) :=
    ⟨before ++ piece, after, by rw [List.append_assoc]; exact hcut, rfl⟩
  refine window_eq hcut hstart.floorBoundary_eq ?_
  rw [← byteLength_append]
  exact hstop.floorBoundary_eq

/-! ### The ends of a text -/

/-- From the start a window is a beginning of the text, up to the floor of its position. -/
theorem exists_window_zero (cs : List Char) (n : Nat) :
    ∃ after, cs = window cs 0 n ++ after ∧ byteLength (window cs 0 n) = floorBoundary cs n := by
  obtain ⟨before, after, hcut, hstart, hstop⟩ := exists_window cs (Nat.zero_le n)
  rw [(isBoundary_zero cs).floorBoundary_eq] at hstart
  obtain rfl := byteLength_eq_zero.mp hstart.symm
  exact ⟨after, hcut, hstop.symm⟩

/-- **The longest beginning** of a text within `n` bytes is its window up to there. -/
theorem byteLength_le_of_prefix (hpiece : piece <+: cs) (hn : byteLength piece ≤ n) :
    byteLength piece ≤ byteLength (window cs 0 n) := by
  obtain ⟨after, rfl⟩ := hpiece
  obtain ⟨-, -, hwindow⟩ := exists_window_zero (piece ++ after) n
  have hboundary : IsBoundary (piece ++ after) (byteLength piece) := ⟨piece, after, rfl, rfl⟩
  rw [hwindow]
  exact hboundary.le_floorBoundary hn

/-- Up to the end a window is an ending of the text, from the floor of its position. -/
theorem exists_window_end (cs : List Char) (p : Nat) (hp : p ≤ byteLength cs) :
    ∃ before, cs = before ++ window cs p (byteLength cs) ∧
      byteLength before = floorBoundary cs p := by
  obtain ⟨before, after, hcut, hstart, hstop⟩ := exists_window cs hp
  have hafter : after = [] := by
    have hlength := congrArg byteLength hcut
    rw [(isBoundary_byteLength cs).floorBoundary_eq, byteLength_append] at hstop
    rw [byteLength_append, byteLength_append] at hlength
    exact byteLength_eq_zero.mp (by omega)
  rw [hafter, List.append_nil] at hcut
  exact ⟨before, hcut, hstart.symm⟩

/-- **The shortest ending** of a text with at least `n` bytes is its window from so far before the
end. -/
theorem le_byteLength_of_suffix (hpiece : piece <:+ cs)
    (hn : min n (byteLength cs) ≤ byteLength piece) :
    byteLength (window cs (byteLength cs - n) (byteLength cs)) ≤ byteLength piece := by
  obtain ⟨before, hcut, hbefore⟩ := exists_window_end cs (byteLength cs - n) (Nat.sub_le _ _)
  obtain ⟨front, hfront⟩ := hpiece
  have hboundary : IsBoundary cs (byteLength front) := ⟨front, piece, hfront.symm, rfl⟩
  have hwindow := congrArg byteLength hcut
  have hlength := congrArg byteLength hfront
  rw [byteLength_append] at hwindow hlength
  have hle : byteLength front ≤ floorBoundary cs (byteLength cs - n) :=
    hboundary.le_floorBoundary (by omega)
  omega

end Text

end SheetFormula
