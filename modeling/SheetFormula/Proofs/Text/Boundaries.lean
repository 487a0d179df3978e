import SheetFormula.Proofs.Token.Items

/-!
# Cutting texts at boundaries

The pieces of a text between two of its boundaries are just those that `Text.slice?` yields
(`Text.slice?_eq_some_iff`), so a cut goes wrong only away from the boundaries or against their
order. `Text.floorBoundary` is the greatest boundary that is not above a position
(`Text.isBoundary_floorBoundary`, `Text.IsBoundary.le_floorBoundary`), which makes cuts at floors
safe: floors are boundaries, and they keep the order of the positions.

An occurrence of one text in another is found before the end of the latter, unless this is empty
(`Text.find?_lt`).
-/

namespace SheetFormula

namespace Text

variable {cs before before' after after' piece : List Char} {p q start stop n : Nat}

/-! ### Boundaries -/

theorem isBoundary_zero (cs : List Char) : IsBoundary cs 0 := ⟨[], cs, rfl, rfl⟩

/-- A boundary behind a character is one of the text with it. -/
theorem IsBoundary.cons {c : Char} (h : IsBoundary cs p) :
    IsBoundary (c :: cs) (c.utf8Size + p) := by
  obtain ⟨before, after, rfl, rfl⟩ := h
  exact ⟨c :: before, after, rfl, (byteLength_cons c before).symm⟩

/-- A boundary is at the start or behind the first character. -/
theorem IsBoundary.cons_cases {c : Char} (h : IsBoundary (c :: cs) p) :
    p = 0 ∨ ∃ q, IsBoundary cs q ∧ p = c.utf8Size + q := by
  obtain ⟨_ | ⟨d, before⟩, after, hcut, rfl⟩ := h
  · exact .inl rfl
  · obtain ⟨rfl, rfl⟩ := List.cons.inj hcut
    exact .inr ⟨byteLength before, ⟨before, after, rfl, rfl⟩, byteLength_cons c before⟩

theorem byteLength_eq_zero : byteLength cs = 0 ↔ cs = [] := by
  cases cs with
  | nil => simp
  | cons c cs =>
    have hc := c.utf8Size_pos
    rw [byteLength_cons]
    simp
    omega

/-- Of two cuts of a text the later one has the piece between them in front of it. -/
theorem exists_piece_of_le (hcut : before ++ after = before' ++ after')
    (hle : byteLength before ≤ byteLength before') :
    ∃ piece, before' = before ++ piece ∧ after = piece ++ after' := by
  rcases List.append_eq_append_iff.mp hcut with ⟨piece, rfl, rfl⟩ | ⟨piece, rfl, rfl⟩
  · exact ⟨piece, rfl, rfl⟩
  · have hnil : piece = [] := by
      rw [byteLength_append] at hle
      exact byteLength_eq_zero.mp (by omega)
    subst hnil
    exact ⟨[], by simp, rfl⟩

/-! ### Floors -/

theorem floorFrom_eq (passed : Nat) (cs : List Char) (p : Nat) :
    floorFrom passed cs p = passed + floorBoundary cs p := by
  induction cs generalizing passed p with
  | nil => rfl
  | cons c cs ih =>
    rw [floorBoundary, floorFrom, floorFrom, ih, ih (0 + c.utf8Size)]
    split <;> omega

theorem floorBoundary_cons_of_le {c : Char} (h : c.utf8Size ≤ p) :
    floorBoundary (c :: cs) p = c.utf8Size + floorBoundary cs (p - c.utf8Size) := by
  rw [floorBoundary, floorFrom, if_pos h, floorFrom_eq, Nat.zero_add]

theorem floorBoundary_cons_of_lt {c : Char} (h : p < c.utf8Size) :
    floorBoundary (c :: cs) p = 0 := by
  rw [floorBoundary, floorFrom, if_neg (Nat.not_le_of_lt h)]

/-- **A floor is a boundary.** -/
theorem isBoundary_floorBoundary (cs : List Char) (p : Nat) :
    IsBoundary cs (floorBoundary cs p) := by
  induction cs generalizing p with
  | nil => exact isBoundary_zero []
  | cons c cs ih =>
    rcases Nat.lt_or_ge p c.utf8Size with h | h
    · rw [floorBoundary_cons_of_lt h]
      exact isBoundary_zero _
    · rw [floorBoundary_cons_of_le h]
      exact (ih _).cons

/-- A floor is not above its position. -/
theorem floorBoundary_le (cs : List Char) (p : Nat) : floorBoundary cs p ≤ p := by
  induction cs generalizing p with
  | nil => exact Nat.zero_le p
  | cons c cs ih =>
    rcases Nat.lt_or_ge p c.utf8Size with h | h
    · rw [floorBoundary_cons_of_lt h]
      exact Nat.zero_le p
    · rw [floorBoundary_cons_of_le h]
      have hrest := ih (p - c.utf8Size)
      omega

/-- **No boundary lies between a floor and its position.** -/
theorem IsBoundary.le_floorBoundary (hq : IsBoundary cs q) (h : q ≤ p) :
    q ≤ floorBoundary cs p := by
  induction cs generalizing p q with
  | nil =>
    obtain ⟨before, after, hcut, rfl⟩ := hq
    rw [(List.append_eq_nil_iff.mp hcut.symm).1]
    exact Nat.le_refl 0
  | cons c cs ih =>
    rcases hq.cons_cases with rfl | ⟨r, hr, rfl⟩
    · exact Nat.zero_le _
    · rw [floorBoundary_cons_of_le (Nat.le_of_add_right_le h)]
      exact Nat.add_le_add_left (ih hr (by omega)) _

/-- **Floors keep the order of the positions.** -/
theorem floorBoundary_mono (cs : List Char) (h : p ≤ q) :
    floorBoundary cs p ≤ floorBoundary cs q :=
  (isBoundary_floorBoundary cs p).le_floorBoundary (Nat.le_trans (floorBoundary_le cs p) h)

/-! ### Pieces -/

/-- Before a boundary there are so many characters as are counted up to it. -/
theorem countFrom_append (passed : Nat) (before after : List Char) :
    countFrom passed (before ++ after) (byteLength before) = some (passed + before.length) := by
  induction before generalizing passed with
  | nil => cases after <;> rfl
  | cons c before ih =>
    obtain ⟨k, hk⟩ := Nat.exists_eq_add_of_le' (Nat.le_add_right_of_le c.utf8Size_pos)
    rw [List.cons_append, byteLength_cons, hk, countFrom, if_pos (by omega)]
    have hrest : k + 1 - c.utf8Size = byteLength before := by omega
    rw [hrest, ih, List.length_cons, Nat.add_right_comm, Nat.add_assoc]

theorem exists_of_countFrom {passed : Nat} (h : countFrom passed cs p = some n) :
    ∃ before after, cs = before ++ after ∧ n = passed + before.length ∧ p = byteLength before := by
  induction cs generalizing passed p with
  | nil =>
    cases p with
    | zero =>
      cases h
      exact ⟨[], [], rfl, rfl, rfl⟩
    | succ p => cases h
  | cons c cs ih =>
    cases p with
    | zero =>
      cases h
      exact ⟨[], c :: cs, rfl, rfl, rfl⟩
    | succ p =>
      rw [countFrom] at h
      split at h
      · next hc =>
        obtain ⟨before, after, rfl, rfl, hp⟩ := ih h
        refine ⟨c :: before, after, rfl, ?_, ?_⟩
        · rw [List.length_cons]
          omega
        · rw [byteLength_cons]
          omega
      · cases h

/-- **The pieces of a text are those between two boundaries.** -/
theorem slice?_eq_some_iff :
    slice? cs start stop = some piece ↔
      ∃ before after, cs = before ++ (piece ++ after) ∧ start = byteLength before ∧
        stop = byteLength (before ++ piece) := by
  constructor
  · intro h
    obtain ⟨k, hk, h⟩ := Option.bind_eq_some_iff.mp h
    obtain ⟨l, hl, h⟩ := Option.bind_eq_some_iff.mp h
    split at h
    · next hle =>
      cases h
      obtain ⟨before, after, rfl, hbefore, rfl⟩ := exists_of_countFrom hk
      obtain ⟨upto, rest, hcut, hupto, rfl⟩ := exists_of_countFrom hl
      obtain ⟨between, rfl, rfl⟩ := exists_piece_of_le hcut hle
      refine ⟨before, rest, ?_, rfl, ?_⟩ <;> simp [hbefore, hupto]
    · cases h
  · rintro ⟨before, after, rfl, rfl, rfl⟩
    have hstart : charCount? (before ++ (piece ++ after)) (byteLength before) =
        some before.length := by
      rw [charCount?, countFrom_append, Nat.zero_add]
    have hstop : charCount? (before ++ (piece ++ after)) (byteLength (before ++ piece)) =
        some (before ++ piece).length := by
      rw [charCount?, ← List.append_assoc, countFrom_append, Nat.zero_add]
    rw [slice?, hstart, Option.bind_eq_bind, Option.bind_some, hstop]
    simp

/-- **Between boundaries in order there is a piece.** -/
theorem IsBoundary.exists_slice? (hstart : IsBoundary cs start) (hstop : IsBoundary cs stop)
    (h : start ≤ stop) : ∃ piece, slice? cs start stop = some piece := by
  obtain ⟨before, after, rfl, rfl⟩ := hstart
  obtain ⟨upto, rest, hcut, rfl⟩ := hstop
  obtain ⟨piece, rfl, rfl⟩ := exists_piece_of_le hcut h
  exact ⟨piece, slice?_eq_some_iff.mpr ⟨before, rest, rfl, rfl, rfl⟩⟩

/-! ### Occurrences -/

/-- An occurrence is found before the end of a text that is not empty. -/
theorem findFrom_lt {needle : List Char} (h : findFrom needle p cs = some n) (hcs : cs ≠ []) :
    n < p + byteLength cs := by
  induction cs generalizing p with
  | nil => exact absurd rfl hcs
  | cons c cs ih =>
    have hc := c.utf8Size_pos
    rw [findFrom] at h
    rw [byteLength_cons]
    split at h
    · cases h
      omega
    · next hfront =>
      cases cs with
      | nil =>
        cases needle with
        | nil => exact absurd rfl hfront
        | cons d needle => cases h
      | cons d cs =>
        have hlater := ih h (List.cons_ne_nil _ _)
        omega

theorem find?_lt {needle : List Char} (h : find? needle cs = some n) (hcs : cs ≠ []) :
    n < byteLength cs := by
  have hlt := findFrom_lt h hcs
  omega

end Text

end SheetFormula
