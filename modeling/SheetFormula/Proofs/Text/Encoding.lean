import SheetFormula.Text.Bytes

/-!
# The bytes of a text

The UTF-8 forms of two different characters part at a place where both still have a byte, and the
character with the lesser code point has the lesser byte there (`Text.decidedBelow_encodeChar`). So
the bytes of a text tell its characters (`Text.prefix_of_encoded`), and the order of texts by their
bytes is the lexicographic order by code points (`Text.order_eq_lt`).
-/

namespace SheetFormula

namespace Text

/-- The UTF-8 form of a list of characters. -/
def encoded (cs : List Char) : List UInt8 := cs.flatMap String.utf8EncodeChar

/-- The code points of a text. -/
def codePoints (s : String) : List Nat := s.toList.map Char.toNat

theorem bytes_eq_encoded (s : String) : bytes s = encoded s.toList := rfl

@[simp]
theorem encoded_nil : encoded [] = [] := rfl

theorem encoded_cons (c : Char) (cs : List Char) :
    encoded (c :: cs) = String.utf8EncodeChar c ++ encoded cs :=
  List.flatMap_cons

theorem encoded_append (as bs : List Char) : encoded (as ++ bs) = encoded as ++ encoded bs :=
  List.flatMap_append

@[simp]
theorem length_encoded (cs : List Char) : (encoded cs).length = byteLength cs := by
  induction cs with
  | nil => rfl
  | cons c cs ih =>
    rw [encoded_cons, List.length_append, String.length_utf8EncodeChar, ih, byteLength_cons]

theorem encodeChar_ne_nil (c : Char) : String.utf8EncodeChar c ≠ [] := by
  intro h
  have hlength := String.length_utf8EncodeChar c
  have hsize := c.utf8Size_pos
  rw [h, List.length_nil] at hlength
  omega

/-! ### Where lists of bytes part -/

/-- A list of bytes is **decided below** another when they part at a place where both have a byte
and the first has the lesser one. -/
def DecidedBelow : List UInt8 → List UInt8 → Prop
  | x :: xs, y :: ys => x < y ∨ x = y ∧ DecidedBelow xs ys
  | _, _ => False

namespace DecidedBelow

variable {xs ys : List UInt8}

/-- What comes behind the place where two lists part does not matter. -/
theorem append (h : DecidedBelow xs ys) (as bs : List UInt8) :
    DecidedBelow (xs ++ as) (ys ++ bs) := by
  induction xs generalizing ys with
  | nil => cases h
  | cons x xs ih =>
    cases ys with
    | nil => cases h
    | cons y ys =>
      rcases h with h | ⟨rfl, h⟩
      · exact .inl h
      · exact .inr ⟨rfl, ih h⟩

theorem compare_eq_lt (h : DecidedBelow xs ys) : compare xs ys = .lt := by
  induction xs generalizing ys with
  | nil => cases h
  | cons x xs ih =>
    cases ys with
    | nil => cases h
    | cons y ys =>
      rw [List.compare_cons_cons]
      rcases h with h | ⟨rfl, h⟩
      · rw [Std.compare_eq_lt.mpr h]
        rfl
      · have hself : compare x x = .eq := Std.ReflCmp.compare_self
        rw [hself, ih h]
        rfl

theorem compare_eq_gt (h : DecidedBelow xs ys) : compare ys xs = .gt := by
  have hswap : compare ys xs = (compare xs ys).swap := Std.OrientedCmp.eq_swap
  rw [hswap, h.compare_eq_lt]
  rfl

/-- Lists that part are no beginnings of each other. -/
theorem not_beginning (h : DecidedBelow xs ys) : ¬ xs <+: ys ∧ ¬ ys <+: xs := by
  induction xs generalizing ys with
  | nil => cases h
  | cons x xs ih =>
    cases ys with
    | nil => cases h
    | cons y ys =>
      rw [List.cons_prefix_cons, List.cons_prefix_cons]
      rcases h with h | ⟨rfl, h⟩
      · have hne : x ≠ y := UInt8.ne_of_lt h
        exact ⟨fun hp => hne hp.1, fun hp => hne hp.1.symm⟩
      · exact ⟨fun hp => (ih h).1 hp.2, fun hp => (ih h).2 hp.2⟩

end DecidedBelow

theorem toNat_lt (c : Char) : c.toNat < 1114112 := by
  have hvalid : c.toNat.isValidChar := c.valid
  rcases hvalid with h | ⟨-, h⟩
  · omega
  · exact h

/-- **The lesser code point has the lesser bytes.** -/
theorem decidedBelow_encodeChar {c d : Char} (h : c.toNat < d.toNat) :
    DecidedBelow (String.utf8EncodeChar c) (String.utf8EncodeChar d) := by
  have hd := toNat_lt d
  unfold String.utf8EncodeChar
  simp only [Char.toNat_val]
  generalize c.toNat = m at *
  generalize d.toNat = n at *
  -- the bytes hold the digits to base 64, each the rest of the quotient before
  have hm : m / 4096 = m / 64 / 64 ∧ m / 262144 = m / 64 / 64 / 64 := by omega
  have hn : n / 4096 = n / 64 / 64 ∧ n / 262144 = n / 64 / 64 / 64 := by omega
  rw [hm.1, hm.2, hn.1, hn.2]
  -- one case for each pair of lengths
  repeat' split
  all_goals
    simp only [DecidedBelow, UInt8.lt_iff_toNat_lt, ← UInt8.toNat_inj, UInt8.toNat_ofNat',
      and_false, or_false]
    simp (disch := omega) only [Nat.mod_eq_of_lt]
    omega

/-- Two characters are one, or the bytes of one are decided below those of the other. -/
theorem eq_or_decidedBelow (c d : Char) :
    c = d ∨ DecidedBelow (String.utf8EncodeChar c) (String.utf8EncodeChar d) ∨
      DecidedBelow (String.utf8EncodeChar d) (String.utf8EncodeChar c) := by
  rcases Nat.lt_trichotomy c.toNat d.toNat with h | h | h
  · exact .inr (.inl (decidedBelow_encodeChar h))
  · exact .inl (Char.toNat_inj.mp h)
  · exact .inr (.inr (decidedBelow_encodeChar h))

/-- **The bytes of a text tell its characters**: what begins with the bytes of a text begins with
the text. -/
theorem prefix_of_encoded {as bs : List Char} (h : encoded as <+: encoded bs) : as <+: bs := by
  induction as generalizing bs with
  | nil => exact List.nil_prefix
  | cons a as ih =>
    rw [encoded_cons] at h
    cases bs with
    | nil =>
      have hnil := List.append_eq_nil_iff.mp (List.prefix_nil.mp h)
      exact absurd hnil.1 (encodeChar_ne_nil a)
    | cons b bs =>
      rw [encoded_cons] at h
      rcases eq_or_decidedBelow a b with rfl | hpart | hpart
      · exact List.cons_prefix_cons.mpr ⟨rfl, ih ((List.prefix_append_right_inj _).mp h)⟩
      · exact absurd h (hpart.append _ _).not_beginning.1
      · exact absurd h (hpart.append _ _).not_beginning.2

theorem bytes_inj {s t : String} (h : bytes s = bytes t) : s = t := by
  rw [bytes_eq_encoded, bytes_eq_encoded] at h
  have hst : s.toList <+: t.toList := prefix_of_encoded (h ▸ List.prefix_rfl)
  have hts : t.toList <+: s.toList := prefix_of_encoded (h ▸ List.prefix_rfl)
  exact String.toList_inj.mp (hst.eq_of_length_le hts.length_le)

/-! ### The order of texts -/

theorem compare_append_left (xs ys zs : List UInt8) :
    compare (xs ++ ys) (xs ++ zs) = compare ys zs := by
  induction xs with
  | nil => rfl
  | cons x xs ih =>
    have hself : compare x x = .eq := Std.ReflCmp.compare_self
    rw [List.cons_append, List.cons_append, List.compare_cons_cons, hself, ih]
    rfl

theorem compare_encoded_eq_lt (as bs : List Char) :
    compare (encoded as) (encoded bs) = .lt ↔ as.map Char.toNat < bs.map Char.toNat := by
  induction as generalizing bs with
  | nil =>
    cases bs with
    | nil => simp
    | cons b bs =>
      obtain ⟨x, xs, hx⟩ := List.exists_cons_of_ne_nil (encodeChar_ne_nil b)
      rw [encoded_cons, hx, List.cons_append]
      simp
  | cons a as ih =>
    cases bs with
    | nil =>
      obtain ⟨x, xs, hx⟩ := List.exists_cons_of_ne_nil (encodeChar_ne_nil a)
      rw [encoded_cons, hx, List.cons_append]
      simp
    | cons b bs =>
      rw [encoded_cons, encoded_cons, List.map_cons, List.map_cons, List.cons_lt_cons_iff]
      rcases Nat.lt_trichotomy a.toNat b.toNat with h | h | h
      · have hlt := ((decidedBelow_encodeChar h).append (encoded as) (encoded bs)).compare_eq_lt
        exact iff_of_true hlt (.inl h)
      · obtain rfl := Char.toNat_inj.mp h
        rw [compare_append_left, ih]
        simp
      · have hgt := ((decidedBelow_encodeChar h).append (encoded bs) (encoded as)).compare_eq_gt
        rw [hgt]
        exact iff_of_false (by simp) (by omega)

/-- **The order by bytes is the lexicographic order by code points.** -/
theorem order_eq_lt {s t : String} : order s t = .lt ↔ codePoints s < codePoints t :=
  compare_encoded_eq_lt s.toList t.toList

theorem order_eq_eq {s t : String} : order s t = .eq ↔ s = t := by
  constructor
  · intro h
    have hbytes : compare (bytes s) (bytes t) = .eq := h
    exact bytes_inj (Std.LawfulEqCmp.eq_of_compare hbytes)
  · rintro rfl
    have hself : compare (bytes s) (bytes s) = .eq := Std.ReflCmp.compare_self
    exact hself

theorem order_swap (s t : String) : order t s = (order s t).swap := by
  have hswap : compare (bytes t) (bytes s) = (compare (bytes s) (bytes t)).swap :=
    Std.OrientedCmp.eq_swap
  exact hswap

theorem order_trans {s t u : String} (hst : order s t = .lt) (htu : order t u = .lt) :
    order s u = .lt := by
  have hbytes : compare (bytes s) (bytes u) = .lt := Std.TransCmp.lt_trans hst htu
  exact hbytes

end Text

end SheetFormula
