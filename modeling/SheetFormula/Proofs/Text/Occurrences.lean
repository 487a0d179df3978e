import Mathlib.Order.Bounds.Defs
import SheetFormula.Proofs.Text.Encoding
import SheetFormula.Proofs.Text.Windows

/-!
# Occurrences of a text in another

A text occurs in another at a byte position when its bytes stand there (`Text.OccursAt`). As no
character begins with a byte from within another, its characters stand there then
(`Text.occursAt_iff`), and the position is a boundary. What `Text.find?` finds is the least position
of an occurrence, and where it finds none there is none (`Text.find?_eq_some`,
`Text.find?_eq_none`). In the rest of a text from the floor of a place on, this is the first
occurrence behind the floor (`Text.isFirst_find?`). It is the first one at or after the place,
unless this is within a character with which an occurrence begins
(`Text.isFirst_floorBoundary_iff`).
-/

namespace SheetFormula

namespace Text

variable {needle cs : List Char} {p q n : Nat}

/-! ### Characters and bytes -/

/-- A text **stands** in another at a byte position when it is the piece of it from there on. -/
def StandsAt (needle cs : List Char) (position : Nat) : Prop :=
  ∃ before after, cs = before ++ (needle ++ after) ∧ position = byteLength before

/-- A text **occurs** in another at a byte position when its bytes stand there. -/
def OccursAt (needle text : String) (position : Nat) : Prop :=
  bytes needle <+: (bytes text).drop position

theorem StandsAt.isBoundary (h : StandsAt needle cs p) : IsBoundary cs p := by
  obtain ⟨before, after, hcut, hp⟩ := h
  exact ⟨before, needle ++ after, hcut, hp⟩

theorem StandsAt.add_byteLength_le (h : StandsAt needle cs p) :
    p + byteLength needle ≤ byteLength cs := by
  obtain ⟨before, after, rfl, rfl⟩ := h
  rw [byteLength_append, byteLength_append]
  omega

/-- What stands in a beginning of a text stands in the text. -/
theorem StandsAt.append (h : StandsAt needle cs p) (rest : List Char) :
    StandsAt needle (cs ++ rest) p := by
  obtain ⟨before, after, rfl, rfl⟩ := h
  exact ⟨before, after ++ rest, by simp only [List.append_assoc], rfl⟩

theorem standsAt_nil_iff : StandsAt needle [] p ↔ needle = [] ∧ p = 0 := by
  constructor
  · rintro ⟨before, after, hcut, rfl⟩
    obtain ⟨rfl, hrest⟩ := List.append_eq_nil_iff.mp hcut.symm
    exact ⟨(List.append_eq_nil_iff.mp hrest).1, rfl⟩
  · rintro ⟨rfl, rfl⟩
    exact ⟨[], [], rfl, rfl⟩

/-- A text stands at the front or behind the first character. -/
theorem standsAt_cons_iff {c : Char} :
    StandsAt needle (c :: cs) p ↔
      (p = 0 ∧ needle <+: c :: cs) ∨ ∃ q, p = c.utf8Size + q ∧ StandsAt needle cs q := by
  constructor
  · rintro ⟨_ | ⟨d, before⟩, after, hcut, rfl⟩
    · exact .inl ⟨rfl, after, hcut.symm⟩
    · obtain ⟨rfl, rfl⟩ := List.cons.inj hcut
      exact .inr ⟨byteLength before, byteLength_cons c before, before, after, rfl, rfl⟩
  · rintro (⟨rfl, after, hfront⟩ | ⟨q, rfl, before, after, rfl, rfl⟩)
    · exact ⟨[], after, hfront.symm, rfl⟩
    · exact ⟨c :: before, after, rfl, (byteLength_cons c before).symm⟩

/-- Behind a cut a text stands where it stands in the whole. -/
theorem standsAt_append_iff {before after : List Char} :
    StandsAt needle after p ↔ StandsAt needle (before ++ after) (byteLength before + p) := by
  induction before with
  | nil => simp
  | cons c before ih =>
    have hc := c.utf8Size_pos
    rw [ih, List.cons_append, standsAt_cons_iff, byteLength_cons, Nat.add_assoc]
    constructor
    · intro h
      exact .inr ⟨_, rfl, h⟩
    · rintro (⟨hzero, -⟩ | ⟨q, hq, h⟩)
      · omega
      · rwa [Nat.add_left_cancel hq]

/-- A byte from within a character is not the first one of another. -/
theorem not_prefix_drop_encodeChar {c d : Char} {rest rest' : List UInt8} (hp : 0 < p)
    (hlt : p < c.utf8Size) :
    ¬ String.utf8EncodeChar d ++ rest <+: (String.utf8EncodeChar c ++ rest').drop p := by
  intro h
  have hc : p < (String.utf8EncodeChar c).length := by
    rw [String.length_utf8EncodeChar]
    exact hlt
  have hd : 0 < (String.utf8EncodeChar d).length := by
    rw [String.length_utf8EncodeChar]
    exact d.utf8Size_pos
  have hbyte : (String.utf8EncodeChar d)[0] = (String.utf8EncodeChar c)[p] := by
    obtain ⟨tail, htail⟩ := h
    have hfront := congrArg (fun bytes => bytes[0]?) htail
    simpa only [List.append_assoc, List.getElem?_drop, Nat.add_zero, List.getElem?_append_left hd,
      List.getElem?_append_left hc, List.getElem?_eq_getElem hd, List.getElem?_eq_getElem hc,
      Option.some.injEq] using hfront
  have hfirst : (String.utf8EncodeChar d)[0].IsUTF8FirstByte :=
    UInt8.isUTF8FirstByte_getElem_utf8EncodeChar.mpr rfl
  rw [hbyte] at hfirst
  exact Nat.ne_of_gt hp (UInt8.isUTF8FirstByte_getElem_utf8EncodeChar.mp hfirst)

/-- Where the bytes of a text stand, the text stands. -/
theorem standsAt_of_encoded (hneedle : needle ≠ []) (h : encoded needle <+: (encoded cs).drop p) :
    StandsAt needle cs p := by
  obtain ⟨d, ds, rfl⟩ := List.exists_cons_of_ne_nil hneedle
  induction cs generalizing p with
  | nil =>
    rw [encoded_nil, List.drop_nil, List.prefix_nil, encoded_cons] at h
    exact absurd (List.append_eq_nil_iff.mp h).1 (encodeChar_ne_nil d)
  | cons c cs ih =>
    have hlength : (String.utf8EncodeChar c).length = c.utf8Size := String.length_utf8EncodeChar c
    rw [standsAt_cons_iff]
    rcases Nat.eq_zero_or_pos p with rfl | hp
    · exact .inl ⟨rfl, prefix_of_encoded h⟩
    · rcases Nat.lt_or_ge p c.utf8Size with hlt | hge
      · rw [encoded_cons, encoded_cons] at h
        exact absurd h (not_prefix_drop_encodeChar hp hlt)
      · have hbehind : (String.utf8EncodeChar c).drop p = [] :=
          List.drop_eq_nil_of_le (hlength ▸ hge)
        have hrest : encoded (d :: ds) <+: (encoded cs).drop (p - c.utf8Size) := by
          rwa [encoded_cons c cs, List.drop_append, hbehind, List.nil_append, hlength] at h
        exact .inr ⟨p - c.utf8Size, by omega, ih hrest⟩

/-- **The bytes of a text occur just where its characters stand.** -/
theorem occursAt_iff {needle text : String} (hneedle : needle ≠ "") :
    OccursAt needle text p ↔ StandsAt needle.toList text.toList p := by
  constructor
  · refine standsAt_of_encoded fun hnil => hneedle ?_
    exact String.toList_eq_nil_iff.mp hnil
  · rintro ⟨before, after, hcut, rfl⟩
    rw [OccursAt, bytes_eq_encoded, bytes_eq_encoded, hcut, encoded_append, encoded_append,
      ← length_encoded, List.drop_left]
    exact List.prefix_append _ _

theorem OccursAt.isBoundary {needle text : String} (h : OccursAt needle text p)
    (hneedle : needle ≠ "") : IsBoundary text.toList p :=
  ((occursAt_iff hneedle).mp h).isBoundary

/-- An occurrence is not empty and ends within the text. -/
theorem OccursAt.bounds {needle text : String} (hneedle : needle ≠ "")
    (h : OccursAt needle text p) :
    0 < needle.utf8ByteSize ∧ p + needle.utf8ByteSize ≤ text.utf8ByteSize := by
  have hends := ((occursAt_iff hneedle).mp h).add_byteLength_le
  rw [byteLength_toList, byteLength_toList] at hends
  refine ⟨Nat.pos_of_ne_zero fun hzero => hneedle ?_, hends⟩
  exact String.utf8ByteSize_eq_zero_iff.mp hzero

/-! ### Finding the first occurrence -/

/-- **What is found stands there**, and nowhere before. -/
theorem findFrom_eq_some (h : findFrom needle p cs = some n) :
    ∃ q, n = p + q ∧ IsLeast {r | StandsAt needle cs r} q := by
  induction cs generalizing p with
  | nil =>
    rw [findFrom] at h
    split at h
    · next hnil =>
      cases h
      refine ⟨0, rfl, standsAt_nil_iff.mpr ⟨List.isEmpty_iff.mp hnil, rfl⟩, ?_⟩
      exact fun r _ => Nat.zero_le r
    · cases h
  | cons c cs ih =>
    rw [findFrom] at h
    split at h
    · next hfront =>
      cases h
      refine ⟨0, rfl, standsAt_cons_iff.mpr (.inl ⟨rfl, List.isPrefixOf_iff_prefix.mp hfront⟩), ?_⟩
      exact fun r _ => Nat.zero_le r
    · next hfront =>
      obtain ⟨q, rfl, hq, hleast⟩ := ih h
      refine ⟨c.utf8Size + q, Nat.add_assoc .., standsAt_cons_iff.mpr (.inr ⟨q, rfl, hq⟩), ?_⟩
      intro r hr
      rcases standsAt_cons_iff.mp hr with ⟨-, hprefix⟩ | ⟨k, rfl, hk⟩
      · exact absurd (List.isPrefixOf_iff_prefix.mpr hprefix) hfront
      · exact Nat.add_le_add_left (hleast hk) _

/-- **Where nothing is found there is nothing.** -/
theorem not_standsAt_of_findFrom (h : findFrom needle p cs = none) (q : Nat) :
    ¬ StandsAt needle cs q := by
  induction cs generalizing p q with
  | nil =>
    rw [findFrom] at h
    split at h
    · cases h
    · next hnil =>
      rw [standsAt_nil_iff]
      exact fun hq => hnil (List.isEmpty_iff.mpr hq.1)
  | cons c cs ih =>
    rw [findFrom] at h
    split at h
    · cases h
    · next hfront =>
      rw [standsAt_cons_iff]
      rintro (⟨-, hprefix⟩ | ⟨r, -, hr⟩)
      · exact hfront (List.isPrefixOf_iff_prefix.mpr hprefix)
      · exact ih h r hr

theorem find?_eq_some (h : find? needle cs = some n) : IsLeast {q | StandsAt needle cs q} n := by
  obtain ⟨q, rfl, hleast⟩ := findFrom_eq_some h
  rwa [Nat.zero_add]

theorem find?_eq_none (h : find? needle cs = none) (q : Nat) : ¬ StandsAt needle cs q :=
  not_standsAt_of_findFrom h q

/-! ### The first position from a place on -/

/-- The **first position**, counted from one, at which a text occurs in another from a position on;
absent when it occurs at none. -/
def IsFirst (needle text : String) (start : Nat) : Option Nat → Prop
  | some position => IsLeast {p | start ≤ p ∧ OccursAt needle text (p - 1)} position
  | none => ∀ p, start ≤ p → ¬ OccursAt needle text (p - 1)

variable {needle text : String} {answer : Option Nat} {s : Nat}

/-- Starts between which nothing occurs have one first position. -/
theorem isFirst_congr {i j : Nat} (h : ∀ p, OccursAt needle text (p - 1) → (i ≤ p ↔ j ≤ p)) :
    IsFirst needle text i answer ↔ IsFirst needle text j answer := by
  have hsame : ∀ p, i ≤ p ∧ OccursAt needle text (p - 1) ↔ j ≤ p ∧ OccursAt needle text (p - 1) :=
    fun p => and_congr_left (h p)
  cases answer with
  | none => exact forall_congr' fun p => not_and.symm.trans ((not_congr (hsame p)).trans not_and)
  | some position => rw [IsFirst, IsFirst, Set.ext hsame]

/-- Nothing occurs between the floor of a start and the start, unless this is within a character
with which an occurrence begins. -/
theorem le_iff_floorBoundary_lt (hneedle : needle ≠ "") (hs : 1 ≤ s)
    (hstart : IsBoundary text.toList (s - 1) ∨
      ¬ OccursAt needle text (floorBoundary text.toList (s - 1)))
    (h : OccursAt needle text (p - 1)) :
    s ≤ p ↔ floorBoundary text.toList (s - 1) + 1 ≤ p := by
  have hfloor := floorBoundary_le text.toList (s - 1)
  refine ⟨fun hp => by omega, fun hp => Nat.le_of_not_lt fun hbefore => ?_⟩
  -- a boundary before the start and not before its floor is the floor itself
  have hle : p - 1 ≤ floorBoundary text.toList (s - 1) :=
    (h.isBoundary hneedle).le_floorBoundary (by omega)
  have heq : p - 1 = floorBoundary text.toList (s - 1) := by omega
  rcases hstart with hboundary | hnone
  · have hfixed := hboundary.floorBoundary_eq
    omega
  · exact hnone (heq ▸ h)

/-- **The first position behind the floor of a start** is the first one at or after the start,
unless the start is within a character with which an occurrence begins. -/
theorem isFirst_floorBoundary_iff (hneedle : needle ≠ "") (hs : 1 ≤ s)
    (h : IsFirst needle text (floorBoundary text.toList (s - 1) + 1) answer) :
    IsFirst needle text s answer ↔
      IsBoundary text.toList (s - 1) ∨
        ¬ OccursAt needle text (floorBoundary text.toList (s - 1)) := by
  refine ⟨fun hfirst => ?_, fun hstart => ?_⟩
  · by_cases hfound : OccursAt needle text (floorBoundary text.toList (s - 1))
    · cases answer with
      | none => exact absurd hfound (h _ (Nat.le_refl _))
      | some position =>
        -- the position is that of the floor, which is not before the start then
        have hfloor := floorBoundary_le text.toList (s - 1)
        have hstart : s ≤ position := hfirst.1.1
        have hposition : position ≤ floorBoundary text.toList (s - 1) + 1 :=
          h.2 ⟨Nat.le_refl _, hfound⟩
        have heq : floorBoundary text.toList (s - 1) = s - 1 := by omega
        exact .inl (heq ▸ isBoundary_floorBoundary text.toList (s - 1))
    · exact .inr hfound
  · exact (isFirst_congr fun p => le_iff_floorBoundary_lt hneedle hs hstart).mpr h

/-- The occurrences in the window from a place to the end are those of the text from its floor
on. -/
theorem standsAt_window_iff (hneedle : needle ≠ "") (hn : n ≤ byteLength text.toList)
    (position : Nat) :
    StandsAt needle.toList (window text.toList n (byteLength text.toList)) position ↔
      OccursAt needle text (floorBoundary text.toList n + position) := by
  obtain ⟨before, hcut, hbefore⟩ := exists_window_end text.toList n hn
  rw [occursAt_iff hneedle, ← hbefore, standsAt_append_iff, ← hcut]

/-- **What is found in the rest of a text** is the first occurrence behind the floor of the place
where this begins. -/
theorem isFirst_find? (hneedle : needle ≠ "") (hn : n ≤ byteLength text.toList) :
    IsFirst needle text (floorBoundary text.toList n + 1)
      ((find? needle.toList (window text.toList n (byteLength text.toList))).map
        (floorBoundary text.toList n + · + 1)) := by
  have hwindow := standsAt_window_iff hneedle hn
  have hplace : ∀ p, floorBoundary text.toList n + 1 ≤ p → OccursAt needle text (p - 1) →
      ∃ q, p = floorBoundary text.toList n + q + 1 ∧
        StandsAt needle.toList (window text.toList n (byteLength text.toList)) q := by
    intro p hp hoccurs
    obtain ⟨q, rfl⟩ := Nat.exists_eq_add_of_le hp
    refine ⟨q, by omega, (hwindow q).mpr ?_⟩
    have heq : floorBoundary text.toList n + 1 + q - 1 = floorBoundary text.toList n + q := by omega
    rwa [heq] at hoccurs
  cases hfind : find? needle.toList (window text.toList n (byteLength text.toList)) with
  | none =>
    intro p hp hoccurs
    obtain ⟨q, -, hq⟩ := hplace p hp hoccurs
    exact find?_eq_none hfind q hq
  | some found =>
    obtain ⟨hfound, hleast⟩ := find?_eq_some hfind
    rw [Option.map_some]
    refine ⟨⟨by omega, (hwindow found).mp hfound⟩, ?_⟩
    rintro p ⟨hp, hoccurs⟩
    obtain ⟨q, rfl, hq⟩ := hplace p hp hoccurs
    have hle : found ≤ q := hleast hq
    omega

/-- Before the last byte of the first occurrence there is no occurrence. -/
theorem not_occursAt_front (hneedle : needle ≠ "") (hn : IsFirst needle text 1 (some n))
    (position : Nat) :
    ¬ OccursAt needle
      (String.ofList (window text.toList 0 (n + needle.utf8ByteSize - 2))) position := by
  intro hfront
  obtain ⟨after, hcut, hlength⟩ := exists_window_zero text.toList (n + needle.utf8ByteSize - 2)
  have hfloor := floorBoundary_le text.toList (n + needle.utf8ByteSize - 2)
  have hbounds := hfront.bounds hneedle
  rw [utf8ByteSize_ofList] at hbounds
  have hwhole : OccursAt needle text position := by
    rw [occursAt_iff hneedle] at hfront ⊢
    rw [String.toList_ofList] at hfront
    rw [hcut]
    exact hfront.append after
  have hleast : n ≤ position + 1 := hn.2 ⟨by omega, hwhole⟩
  omega

end Text

end SheetFormula
