import SheetFormula.Proofs.BaseLibrary.Cuts
import SheetFormula.Proofs.Text.Occurrences

/-!
# Searching a text in another

`SEARCH` answers with the position, counted from one, of the first occurrence from some place on
(`Text.IsFirst`). The place is not the start that it is given but the floor of it, so an occurrence
before the start is found where the start falls into the first character of one, and only there
(`BaseLibrary.search_first`).

A text can be taken apart at a position that `SEARCH` has found
(`BaseLibrary.search_splits`): positions, counts and lengths of fewer than `2⁵³` bytes are added and
subtracted without rounding, and an occurrence begins and ends at boundaries.
-/

namespace SheetFormula

namespace BaseLibrary

open Text
open Binary64 (windowLimit)

variable {c : Call} {needle haystack : String} {start : Option Binary64} {answer : Option Nat}
  {n s : Nat}

/-! ### What is found -/

/-- A search within the text looks at the window from its start to the end. -/
theorem searchFrom_window {piece cs : List Char} {from0 : Int} (hstart : natural? from0 = some n)
    (hinside : n < byteLength cs) :
    searchFrom piece cs from0 =
      match Text.find? piece (window cs n (byteLength cs)) with
      | none => .ok none
      | some found => some <$> inWord (floorBoundary cs n + found + 1) := by
  have hslice := slice?_floorBoundary cs (Nat.le_of_lt hinside)
  rw [(isBoundary_byteLength cs).floorBoundary_eq] at hslice
  rw [searchFrom, hstart]
  simp only [Nat.not_le_of_lt hinside, if_false, hslice, present]
  rfl

/-- **A search finds the first occurrence from the floor of its start on.** -/
theorem searchFrom_isFirst {from0 : Int} (hneedle : needle ≠ "")
    (hword : haystack.utf8ByteSize < Word.limit) (hstart : natural? from0 = some n) :
    ∃ answer, searchFrom needle.toList haystack.toList from0 = .ok answer ∧
      IsFirst needle haystack (floorBoundary haystack.toList n + 1) answer := by
  rcases Nat.lt_or_ge n (byteLength haystack.toList) with hinside | houtside
  · have hfirst := isFirst_find? hneedle (Nat.le_of_lt hinside)
    refine ⟨_, ?_, hfirst⟩
    rw [searchFrom_window hstart hinside]
    split
    · next hfind => rw [hfind, Option.map_none]
    · next found hfind =>
      rw [hfind, Option.map_some] at hfirst ⊢
      have hbounds := OccursAt.bounds hneedle hfirst.1.2
      have hinword : inWord (floorBoundary haystack.toList n + found + 1) =
          .ok (floorBoundary haystack.toList n + found + 1) := if_pos (by omega)
      rw [hinword]
      rfl
  · refine ⟨none, ?_, fun p hp hoccurs => ?_⟩
    · rw [searchFrom, hstart]
      exact if_pos houtside
    · have hbounds := hoccurs.bounds hneedle
      rw [floorBoundary_of_byteLength_le houtside, byteLength_toList] at hp
      omega

/-- The number that stands for a position, which may be absent. -/
def positionNumber : Option Nat → Binary64
  | some position => .ofNat position
  | none => .one true

theorem search_eq {x : Binary64} (hneedle : c.text 0 = .ok needle)
    (hhaystack : c.text 1 = .ok haystack) (hx : c.numberOr 2 1 = .ok x) :
    search c = searchFrom needle.toList haystack.toList (offset x.truncate) >>= fun answer =>
      .ok (.number (positionNumber answer)) := by
  rw [search, hneedle, hhaystack, hx]
  refine congrArg (searchFrom needle.toList haystack.toList (offset x.truncate) >>= ·) ?_
  funext answer
  cases answer <;> rfl

/-- The arguments of a search, of which the start may be left out. -/
def searchArguments (needle haystack : String) (start : Option Binary64) : List Value :=
  .text needle :: .text haystack :: start.toList.map .number

theorem search_on (c : Call) (needle haystack : String) (start : Option Binary64) :
    search (c.on (searchArguments needle haystack start)) =
      searchFrom needle.toList haystack.toList (offset (start.getD 1).truncate) >>= fun answer =>
        .ok (.number (positionNumber answer)) := by
  cases start with
  | none => exact search_eq rfl rfl rfl
  | some x => exact search_eq rfl rfl rfl

/-- A start before the text is answered with minus one. -/
theorem search_of_natural?_none (c : Call)
    (hstart : natural? (offset (start.getD 1).truncate) = none) :
    search (c.on (searchArguments needle haystack start)) = .ok (.number (.one true)) := by
  rw [search_on, searchFrom, hstart]
  rfl

theorem search_isFirst (c : Call) (hneedle : needle ≠ "")
    (hword : haystack.utf8ByteSize < Word.limit)
    (hstart : natural? (offset (start.getD 1).truncate) = some n) :
    ∃ answer, search (c.on (searchArguments needle haystack start)) =
        .ok (.number (positionNumber answer)) ∧
      IsFirst needle haystack (floorBoundary haystack.toList n + 1) answer := by
  obtain ⟨answer, hanswer, hfirst⟩ := searchFrom_isFirst hneedle hword hstart
  refine ⟨answer, ?_, hfirst⟩
  rw [search_on, hanswer]
  rfl

/-- **`SEARCH` answers with the first position from the floor of its start on.** This is the first
one at or after the start, unless the start is within a character with which an occurrence
begins. -/
theorem search_first (c : Call) (hneedle : needle ≠ "")
    (hword : haystack.utf8ByteSize < Word.limit) (hs : 1 ≤ s) (hlimit : s ≤ windowLimit) :
    ∃ answer, search (c.on (searchArguments needle haystack (some (.ofNat s)))) =
        .ok (.number (positionNumber answer)) ∧
      IsFirst needle haystack (floorBoundary haystack.toList (s - 1) + 1) answer ∧
      (IsFirst needle haystack s answer ↔
        IsBoundary haystack.toList (s - 1) ∨
          ¬ OccursAt needle haystack (floorBoundary haystack.toList (s - 1))) := by
  have hposition : (Binary64.ofNat s).truncate = ((s - 1 + 1 : Nat) : Int) := by
    rw [Binary64.truncate_ofNat hlimit]
    omega
  have hstart : natural? (offset ((some (Binary64.ofNat s)).getD 1).truncate) = some (s - 1) := by
    rw [Option.getD_some]
    exact natural?_offset hposition
  obtain ⟨answer, hanswer, hfirst⟩ := search_isFirst c hneedle hword hstart
  exact ⟨answer, hanswer, hfirst, isFirst_floorBoundary_iff hneedle hs hfirst⟩

/-- A start within a character that does not begin an occurrence makes no difference. -/
theorem search_first_umlaut :
    ∃ answer, search (Call.on ⟨"SEARCH", [], none⟩ (searchArguments "é" "aüé" (some (.ofNat 3)))) =
        .ok (.number (positionNumber answer)) ∧
      IsFirst "é" "aüé" 3 answer := by
  have hneedle : "é" ≠ "" := by decide
  have hword : "aüé".utf8ByteSize < Word.limit := by decide
  obtain ⟨answer, hanswer, -, hfirst⟩ :=
    search_first (s := 3) ⟨"SEARCH", [], none⟩ hneedle hword (by decide) (by decide)
  refine ⟨answer, hanswer, hfirst.mpr (.inr ?_)⟩
  unfold OccursAt
  decide

/-- A start within a character that begins an occurrence finds this one, which is before it. -/
theorem search_before_start :
    search (Call.on ⟨"SEARCH", [], none⟩ (searchArguments "é" "xéé" (some (.ofNat 3)))) =
        .ok (.number (.ofNat 2)) ∧
      IsFirst "é" "xéé" 3 (some 4) := by
  refine ⟨by decide +kernel, ⟨by decide, ?_⟩, ?_⟩
  · unfold OccursAt
    decide
  · rintro p ⟨hp, hoccurs⟩
    by_contra hlt
    obtain rfl : p = 3 := by omega
    revert hoccurs
    unfold OccursAt
    decide

/-! ### Taking a text apart -/

/-- A text is **taken apart** at a position `p` when `MID` cuts out the piece of length `k` there,
and what `LEFT` has before and `MID` behind it make up the text of length `l` with it. -/
structure TakenApart (c : Call) (piece text : String) (p k l : Binary64) : Prop where
  /-- `MID(text;p;k)` is the piece. -/
  mid_eq : Makes mid c [.text text, .number p, .number k] piece
  /-- `LEFT(text;p-1) & piece & MID(text;p+k;l)` is the text. -/
  left_mid : ∃ before after, Makes left c [.text text, .number (p.sub 1)] before ∧
    Makes mid c [.text text, .number (p.add k), .number l] after ∧ before ++ piece ++ after = text

/-- **A text is taken apart where a piece of it occurs.** -/
theorem takenApart_of_occursAt (c : Call) (hneedle : needle ≠ "")
    (hsize : haystack.utf8ByteSize < windowLimit) (hn : 1 ≤ n)
    (h : OccursAt needle haystack (n - 1)) :
    TakenApart c needle haystack (.ofNat n) (.ofNat needle.utf8ByteSize)
      (.ofNat haystack.utf8ByteSize) := by
  have hbounds := h.bounds hneedle
  have hlength := byteLength_toList haystack
  have hshort : byteLength haystack.toList < windowLimit := hlength ▸ hsize
  have hpiece : window haystack.toList (n - 1) (n - 1 + needle.utf8ByteSize) = needle.toList := by
    obtain ⟨before, after, hcut, hbefore⟩ := (occursAt_iff hneedle).mp h
    rw [hbefore, ← byteLength_toList needle]
    exact window_piece hcut
  constructor
  · rw [Makes, mid_whole hn (.inr hshort) (.inr hshort), hpiece, String.ofList_toList]
  · have hprevious : (Binary64.ofNat n).sub 1 = .ofNat (n - 1) :=
      Binary64.ofNat_sub hn (by omega)
    have hnext : (Binary64.ofNat n).add (.ofNat needle.utf8ByteSize) =
        .ofNat (n + needle.utf8ByteSize) := Binary64.ofNat_add (by omega) (by omega)
    have hstart : n + needle.utf8ByteSize - 1 = n - 1 + needle.utf8ByteSize := by omega
    rw [hprevious, hnext]
    refine ⟨_, _, left_of_truncate (Binary64.truncate_ofNat (by omega)),
      mid_whole (by omega) (.inr hshort) (.inr hshort), String.toList_inj.mp ?_⟩
    rw [String.toList_append, String.toList_append, String.toList_ofList, String.toList_ofList,
      ← hpiece, hstart, window_append (Nat.zero_le _) (Nat.le_add_right _ _),
      window_append (Nat.zero_le _) (Nat.le_add_right _ _)]
    exact window_zero_of_byteLength_le (by omega)

/-- What `LEFT` makes of all before the last byte of the first occurrence has none. -/
theorem left_front (c : Call) (hneedle : needle ≠ "") (hsize : haystack.utf8ByteSize < windowLimit)
    (hn : IsFirst needle haystack 1 (some n)) :
    ∃ front, Makes left c
        [.text haystack, .number (((Binary64.ofNat n).add (.ofNat needle.utf8ByteSize)).sub 2)]
        front ∧
      ∀ position, ¬ OccursAt needle front position := by
  have hpos : 1 ≤ n := hn.1.1
  have hbounds := OccursAt.bounds hneedle hn.1.2
  have hfront : ((Binary64.ofNat n).add (.ofNat needle.utf8ByteSize)).sub 2 =
      .ofNat (n + needle.utf8ByteSize - 2) := by
    rw [Binary64.ofNat_add (by omega) (by omega)]
    exact Binary64.ofNat_sub (b := 2) (by omega) (by omega)
  rw [hfront]
  exact ⟨_, left_of_truncate (Binary64.truncate_ofNat (by omega)), not_occursAt_front hneedle hn⟩

/-- A search without a start begins at the front, as one from position one does. -/
theorem natural?_start (h : start = none ∨ start = some 1) :
    natural? (offset (start.getD 1).truncate) = some 0 := by
  have hone : start.getD 1 = 1 := by
    rcases h with rfl | rfl <;> rfl
  rw [hone]
  exact natural?_offset (Binary64.truncate_ofNat (by decide))

/-- **A text can be taken apart where `SEARCH` has found a piece of it**, whatever its start was.
Without a start it has found the first occurrence, so there is none in what `LEFT` makes of all
before the last byte of this one. -/
theorem search_splits (c : Call) (hneedle : needle ≠ "")
    (hsize : haystack.utf8ByteSize < windowLimit) (start : Option Binary64) :
    ∃ p k l, search (c.on (searchArguments needle haystack start)) = .ok (.number p) ∧
      len (c.on [.text needle]) = .ok (.number k) ∧
      len (c.on [.text haystack]) = .ok (.number l) ∧
      (p ≠ .one true → TakenApart c needle haystack p k l ∧
        (start = none ∨ start = some 1 →
          ∃ front, Makes left c [.text haystack, .number ((p.add k).sub 2)] front ∧
            ∀ position, ¬ OccursAt needle front position)) := by
  have hword : haystack.utf8ByteSize < Word.limit := Nat.lt_trans hsize (by decide +kernel)
  cases hstart : natural? (offset (start.getD 1).truncate) with
  | none =>
    exact ⟨_, _, _, search_of_natural?_none c hstart, rfl, rfl, fun hfound => absurd rfl hfound⟩
  | some place =>
    obtain ⟨answer, hanswer, hfirst⟩ := search_isFirst c hneedle hword hstart
    refine ⟨_, _, _, hanswer, rfl, rfl, fun hfound => ?_⟩
    cases answer with
    | none => exact absurd rfl hfound
    | some n =>
      have hn : 1 ≤ n := Nat.le_trans (Nat.le_add_left 1 _) hfirst.1.1
      refine ⟨takenApart_of_occursAt c hneedle hsize hn hfirst.1.2, fun hfront => ?_⟩
      rw [natural?_start hfront] at hstart
      obtain rfl := Option.some.inj hstart
      rw [(isBoundary_zero haystack.toList).floorBoundary_eq, Nat.zero_add] at hfirst
      exact left_front c hneedle hsize hfirst

/-- A text is taken apart behind the first of its accents. -/
theorem search_splits_accented :
    TakenApart ⟨"SEARCH", [], none⟩ "lé" "hélé" 4 3 6 := by
  have hneedle : "lé" ≠ "" := by decide
  have hsize : "hélé".utf8ByteSize < windowLimit := by decide
  obtain ⟨p, k, l, hp, hk, hl, hfound⟩ :=
    search_splits ⟨"SEARCH", [], none⟩ hneedle hsize none
  have hsearch : search (Call.on ⟨"SEARCH", [], none⟩ (searchArguments "lé" "hélé" none)) =
      .ok (.number 4) := by decide +kernel
  obtain rfl : 4 = p := Value.number.inj (Except.ok.inj (hsearch.symm.trans hp))
  obtain rfl : 3 = k := Value.number.inj (Except.ok.inj hk)
  obtain rfl : 6 = l := Value.number.inj (Except.ok.inj hl)
  exact (hfound (by decide +kernel)).1

end BaseLibrary

end SheetFormula
