import Mathlib.Data.List.Forall2
import Mathlib.Data.Nat.Digits.Defs
import Mathlib.Tactic.Ring
import Mathlib.Tactic.SplitIfs
import SheetFormula.Text.Quoted

/-!
# The spellings of a text

What may stand between quotes, apart from how it is read: a character has many spellings
(`Text.Spelling`), and a body spells a text by one spelling of each of its characters after the
other (`Text.SpelledBy`). Reading knows just these spellings. An escape is read where one of them
stands (`Text.escape?_eq_some_iff`), so the text that a body yields is the one that it spells
(`Text.unescape?_eq_some_iff`). A body is what stands in front of the quote that closes a text
(`Text.IsBody.bodyLength?_append`), and spellings put together are one (`Text.SpelledBy.isBody`).

The code point of an escape has eight digits at most, which a word of 32 bits holds while they are
read one by one (`Text.codePoint_lt`).
-/

namespace SheetFormula

namespace Text

/-! ### Bodies -/

/-- Whether characters are the **body** of a quoted text: quotes stand in it only behind a
backslash, and every backslash stands before a character that belongs to it. -/
inductive IsBody : List Char → Prop
  | nil : IsBody []
  | plain {c : Char} {cs : List Char} (quote : c ≠ '"') (backslash : c ≠ '\\') (rest : IsBody cs) :
      IsBody (c :: cs)
  | escape {c : Char} {cs : List Char} (rest : IsBody cs) : IsBody ('\\' :: c :: cs)

/-- A body ends at the quote behind it. -/
theorem IsBody.bodyLength?_append {body : List Char} (h : IsBody body) (rest : List Char) :
    bodyLength? (body ++ '"' :: rest) = some body.length := by
  induction h with
  | nil => rfl
  | plain quote backslash _ ih =>
    rw [List.cons_append, bodyLength?, ih]
    · rfl
    · exact quote
    · exact fun _ _ h _ => backslash h
  | escape _ ih =>
    rw [List.cons_append, List.cons_append, bodyLength?, ih]
    rfl

/-- What stands before the quote that ends a body is one. -/
theorem isBody_of_bodyLength? {cs : List Char} {n : Nat} (h : bodyLength? cs = some n) :
    IsBody (cs.take n) ∧ cs.take (n + 1) = cs.take n ++ ['"'] := by
  fun_induction bodyLength? cs generalizing n with
  | case1 => cases h
  | case2 cs =>
    cases h
    exact ⟨.nil, rfl⟩
  | case3 c cs ih =>
    obtain ⟨k, hk, rfl⟩ := Option.map_eq_some_iff.mp h
    obtain ⟨hbody, hquote⟩ := ih hk
    exact ⟨.escape hbody, congrArg (fun ds => '\\' :: c :: ds) hquote⟩
  | case4 c cs hquote hescape ih =>
    obtain ⟨k, hk, rfl⟩ := Option.map_eq_some_iff.mp h
    obtain ⟨hbody, hend⟩ := ih hk
    have hbackslash : c ≠ '\\' := by
      rintro rfl
      cases cs with
      | nil => cases hk
      | cons d cs => exact hescape d cs rfl rfl
    exact ⟨.plain hquote hbackslash hbody, congrArg (List.cons c) hend⟩

/-! ### Spellings -/

/-- Whether a character is the hexadecimal **digit** of a number below sixteen, in small letters or
in capital ones. -/
def IsHexDigit (d : Char) (n : Nat) : Prop :=
  "0123456789abcdef".toList[n]? = some d ∨ "0123456789ABCDEF".toList[n]? = some d

/-- Whether hexadecimal digits **denote** a number, of which the last digit is the lowest. -/
def HexDenotes (digits : List Char) (n : Nat) : Prop :=
  ∃ values, List.Forall₂ IsHexDigit digits values ∧ n = Nat.ofDigits 16 values.reverse

/-- The characters that a backslash and one more character spell, each behind the latter. -/
def shortEscapes : List (Char × Char) :=
  [('"', '"'), ('\\', '\\'), ('\x27', '\x27'), ('0', '\x00'), ('a', '\x07'), ('b', '\x08'),
    ('f', '\x0c'), ('n', '\n'), ('r', '\r'), ('t', '\t'), ('v', '\x0b')]

/-- The letters of the escapes with a fixed number of digits, and these numbers. -/
def fixedEscapes : List (Char × Nat) := [('x', 2), ('u', 4), ('U', 8)]

/-- The **spellings** of a character in a quoted text. -/
inductive Spelling (c : Char) : List Char → Prop
  /-- The character itself, unless it is a quote or a backslash. -/
  | plain (quote : c ≠ '"') (backslash : c ≠ '\\') : Spelling c [c]
  /-- A backslash and one more character. -/
  | short {letter : Char} (escape : (letter, c) ∈ shortEscapes) : Spelling c ['\\', letter]
  /-- A backslash, a letter and so many digits of the code point as the letter asks for. -/
  | fixed {letter : Char} {digits : List Char} (escape : (letter, digits.length) ∈ fixedEscapes)
      (code : HexDenotes digits c.toNat) : Spelling c ('\\' :: letter :: digits)
  /-- A backslash, a small `u` and one to six digits of the code point in braces. -/
  | braced {digits : List Char} (pos : 1 ≤ digits.length) (le : digits.length ≤ 6)
      (code : HexDenotes digits c.toNat) :
      Spelling c ('\\' :: 'u' :: '\x7b' :: (digits ++ ['\x7d']))

/-- Whether a body **spells** a text: a spelling of each of its characters, one after the other. -/
def SpelledBy (cs body : List Char) : Prop :=
  ∃ spellings, List.Forall₂ Spelling cs spellings ∧ body = spellings.flatten

/-! ### Hexadecimal digits -/

section Digits

variable {c d : Char} {cs ds : List Char} {code n v : Nat}

theorem hexValue?_lt (h : hexValue? d = some v) : d.toNat < 128 ∧ v < 16 := by
  have htoNat : d.val.toNat = d.toNat := rfl
  unfold hexValue? isDigit at h
  split_ifs at h with hdigit hsmall hcapital
  all_goals
    simp only [Bool.and_eq_true, decide_eq_true_eq, Char.le_def, UInt32.le_iff_toNat_le,
      Option.some.injEq] at *
    simp at *
    omega

/-- Reading knows the digits with their values. -/
theorem hexValue?_eq_some_iff : hexValue? d = some v ↔ IsHexDigit d v := by
  constructor
  · intro h
    have hcodes : ∀ k < 128, ∀ v < 16, hexValue? (Char.ofNat k) = some v →
        IsHexDigit (Char.ofNat k) v := by
      unfold IsHexDigit
      decide +kernel
    obtain ⟨hd, hv⟩ := hexValue?_lt h
    have key := hcodes d.toNat hd v hv
    rw [Char.ofNat_toNat] at key
    exact key h
  · have hvalues : ∀ v < 16, "0123456789abcdef".toList[v]?.bind hexValue? = some v ∧
        "0123456789ABCDEF".toList[v]?.bind hexValue? = some v := by decide +kernel
    intro h
    have hv : v < 16 := by
      rcases h with h | h <;> exact (List.getElem?_eq_some_iff.mp h).1
    obtain ⟨hsmall, hcapital⟩ := hvalues v hv
    rcases h with h | h
    · rwa [h] at hsmall
    · rwa [h] at hcapital

theorem IsHexDigit.lt (h : IsHexDigit d v) : v < 16 :=
  (hexValue?_lt (hexValue?_eq_some_iff.mpr h)).2

/-- A digit is no character with a meaning of its own between quotes. -/
theorem IsHexDigit.plain (h : IsHexDigit d v) :
    d ≠ '"' ∧ d ≠ '\\' ∧ d ≠ '\x7b' ∧ d ≠ '\x7d' := by
  have hvalue := hexValue?_eq_some_iff.mpr h
  refine ⟨?_, ?_, ?_, ?_⟩ <;>
    rintro rfl <;>
    cases hvalue

/-- Digits are read as the number that they denote, behind what was read before them. -/
theorem hexFrom_eq_some_iff : hexFrom code ds = some n ↔
    ∃ values, List.Forall₂ IsHexDigit ds values ∧
      n = code * 16 ^ ds.length + Nat.ofDigits 16 values.reverse := by
  induction ds generalizing code with
  | nil => simp [hexFrom, eq_comm]
  | cons d ds ih =>
    rw [hexFrom, Option.bind_eq_bind, Option.bind_eq_some_iff]
    constructor
    · rintro ⟨v, hv, hrest⟩
      obtain ⟨values, hvalues, rfl⟩ := ih.mp hrest
      refine ⟨v :: values, .cons (hexValue?_eq_some_iff.mp hv) hvalues, ?_⟩
      rw [Nat.ofDigits_reverse_cons, ← hvalues.length_eq, List.length_cons]
      ring
    · rintro ⟨_, hall, rfl⟩
      obtain ⟨v, values, hv, hvalues, rfl⟩ := List.forall₂_cons_left_iff.mp hall
      refine ⟨v, hexValue?_eq_some_iff.mpr hv, ih.mpr ⟨values, hvalues, ?_⟩⟩
      rw [Nat.ofDigits_reverse_cons, ← hvalues.length_eq, List.length_cons]
      ring

/-- **Digits spell the character whose code point they denote.** -/
theorem charOfHex?_eq_some_iff : charOfHex? ds = some c ↔ HexDenotes ds c.toNat := by
  have hcode : charOfHex? ds = some c ↔ hexFrom 0 ds = some c.toNat := by
    rw [charOfHex?, Option.bind_eq_some_iff]
    constructor
    · rintro ⟨code, hread, hchar⟩
      by_cases hvalid : code.isValidChar
      · cases (dif_pos hvalid).symm.trans hchar
        exact hread
      · cases (dif_neg hvalid).symm.trans hchar
    · exact fun hread => ⟨_, hread, dif_pos c.valid⟩
  rw [hcode, hexFrom_eq_some_iff, HexDenotes]
  simp only [Nat.zero_mul, Nat.zero_add]

theorem HexDenotes.plain (h : HexDenotes ds n) :
    ∀ d ∈ ds, d ≠ '"' ∧ d ≠ '\\' ∧ d ≠ '\x7b' ∧ d ≠ '\x7d' := by
  obtain ⟨values, hvalues, -⟩ := h
  intro d hd
  obtain ⟨i, hi, rfl⟩ := List.getElem_of_mem hd
  exact (hvalues.get hi (hvalues.length_eq ▸ hi)).plain

/-- Digits in braces reach up to the closing one. -/
theorem HexDenotes.takeWhile_brace (h : HexDenotes ds n) (rest : List Char) :
    (ds ++ '\x7d' :: rest).takeWhile (· != '\x7d') = ds := by
  rw [List.takeWhile_append_of_pos fun d hd => bne_iff_ne.mpr (h.plain d hd).2.2.2,
    List.takeWhile_cons_of_neg (by decide), List.append_nil]

end Digits

/-! ### Escapes -/

section Escapes

variable {c : Char} {cs : List Char} {n : Nat}

theorem shortEscape?_eq_some_iff {letter : Char} :
    shortEscape? letter = some c ↔ (letter, c) ∈ shortEscapes := by
  constructor
  · intro h
    unfold shortEscape? at h
    split at h <;> cases h <;> decide
  · have hall : ∀ e ∈ shortEscapes, shortEscape? e.1 = some e.2 := by decide
    exact hall _

theorem fixedEscape?_eq_some_iff {count : Nat} : fixedEscape? count cs = some (c, n) ↔
    ∃ digits rest, cs = digits ++ rest ∧ digits.length = count ∧ HexDenotes digits c.toNat ∧
      n = count + 1 := by
  unfold fixedEscape?
  constructor
  · intro h
    split at h
    · next hle =>
      obtain ⟨c, hread, heq⟩ := Option.map_eq_some_iff.mp h
      cases heq
      exact ⟨cs.take count, cs.drop count, (List.take_append_drop ..).symm,
        List.length_take_of_le hle, charOfHex?_eq_some_iff.mp hread, rfl⟩
    · cases h
  · rintro ⟨digits, rest, rfl, rfl, hcode, rfl⟩
    rw [if_pos (by simp), List.take_left, charOfHex?_eq_some_iff.mpr hcode]
    rfl

/-- What other characters do not reach the end of stands behind them. -/
theorem exists_append_of_length_takeWhile_lt {b : Char}
    (h : (cs.takeWhile (· != b)).length < cs.length) :
    ∃ rest, cs = cs.takeWhile (· != b) ++ b :: rest := by
  induction cs with
  | nil => exact absurd h (Nat.lt_irrefl _)
  | cons c cs ih =>
    by_cases hc : c = b
    · subst hc
      exact ⟨cs, by rw [List.takeWhile_cons_of_neg (by simp), List.nil_append]⟩
    · have htake : (c :: cs).takeWhile (· != b) = c :: cs.takeWhile (· != b) :=
        List.takeWhile_cons_of_pos (bne_iff_ne.mpr hc)
      rw [htake] at h ⊢
      obtain ⟨rest, hrest⟩ := ih (Nat.lt_of_succ_lt_succ h)
      exact ⟨rest, congrArg (List.cons c) hrest⟩

theorem bracedEscape?_eq_some_iff : bracedEscape? cs = some (c, n) ↔
    ∃ digits rest, cs = digits ++ '\x7d' :: rest ∧ 1 ≤ digits.length ∧ digits.length ≤ 6 ∧
      HexDenotes digits c.toNat ∧ n = digits.length + 3 := by
  unfold bracedEscape?
  dsimp only
  constructor
  · intro h
    split at h
    · next hlength =>
      simp only [Bool.and_eq_true, decide_eq_true_eq] at hlength
      obtain ⟨⟨hclosed, hpos⟩, hle⟩ := hlength
      obtain ⟨c, hread, heq⟩ := Option.map_eq_some_iff.mp h
      cases heq
      obtain ⟨rest, hrest⟩ := exists_append_of_length_takeWhile_lt hclosed
      exact ⟨_, rest, hrest, hpos, hle, charOfHex?_eq_some_iff.mp hread, rfl⟩
    · cases h
  · rintro ⟨digits, rest, rfl, hpos, hle, hcode, rfl⟩
    rw [hcode.takeWhile_brace, if_pos (by simp [hpos, hle]), charOfHex?_eq_some_iff.mpr hcode]
    rfl

/-- **An escape is read where a spelling that begins with a backslash stands**, and it takes the
characters of the spelling. -/
theorem escape?_eq_some_iff : escape? cs = some (c, n) ↔
    ∃ letters rest, cs = letters ++ rest ∧ n = letters.length ∧ Spelling c ('\\' :: letters) := by
  constructor
  · intro h
    unfold escape? at h
    split at h
    · cases h
    · obtain ⟨digits, rest, rfl, hlength, hcode, rfl⟩ := fixedEscape?_eq_some_iff.mp h
      exact ⟨'x' :: digits, rest, rfl, by simp [hlength],
        .fixed (by rw [hlength]; decide) hcode⟩
    · obtain ⟨digits, rest, rfl, hlength, hcode, rfl⟩ := fixedEscape?_eq_some_iff.mp h
      exact ⟨'U' :: digits, rest, rfl, by simp [hlength],
        .fixed (by rw [hlength]; decide) hcode⟩
    · obtain ⟨digits, rest, rfl, hpos, hle, hcode, rfl⟩ := bracedEscape?_eq_some_iff.mp h
      exact ⟨'u' :: '\x7b' :: (digits ++ ['\x7d']), rest, by simp, by simp, .braced hpos hle hcode⟩
    · obtain ⟨digits, rest, rfl, hlength, hcode, rfl⟩ := fixedEscape?_eq_some_iff.mp h
      exact ⟨'u' :: digits, rest, rfl, by simp [hlength],
        .fixed (by rw [hlength]; decide) hcode⟩
    · next letter rest _ _ _ _ =>
      obtain ⟨c, hread, heq⟩ := Option.map_eq_some_iff.mp h
      cases heq
      exact ⟨[letter], rest, rfl, rfl, .short (shortEscape?_eq_some_iff.mp hread)⟩
  · rintro ⟨letters, rest, rfl, rfl, hspelling⟩
    cases hspelling with
    | plain _ backslash => exact absurd rfl backslash
    | @short letter escape =>
      have hall : ∀ e ∈ shortEscapes, escape? (e.1 :: rest) = some (e.2, 1) := by
        simp only [shortEscapes, List.forall_mem_cons]
        simp [escape?, shortEscape?]
      exact hall _ escape
    | @fixed letter digits escape code =>
      have hfixed : fixedEscape? digits.length (digits ++ rest) = some (c, digits.length + 1) :=
        fixedEscape?_eq_some_iff.mpr ⟨digits, rest, rfl, rfl, code, rfl⟩
      rw [List.cons_append, List.length_cons, ← hfixed]
      simp only [fixedEscapes, List.mem_cons, Prod.mk.injEq, List.not_mem_nil, or_false] at escape
      rcases escape with ⟨rfl, hlength⟩ | ⟨rfl, hlength⟩ | ⟨rfl, hlength⟩
      · rw [hlength, escape?]
      · obtain ⟨d, ds, rfl⟩ := List.exists_cons_of_length_eq_add_one hlength
        rw [hlength, escape?]
        -- a digit is no brace, so the escape is not one of those with braces
        intro _ hbrace
        exact (code.plain d (List.mem_cons_self ..)).2.2.1 (List.cons.inj hbrace).1
      · rw [hlength, escape?]
    | @braced digits pos le code =>
      have hbraced : bracedEscape? (digits ++ '\x7d' :: rest) = some (c, digits.length + 3) :=
        bracedEscape?_eq_some_iff.mpr ⟨digits, rest, rfl, pos, le, code, rfl⟩
      simpa [escape?] using hbraced

end Escapes

/-! ### What a body spells -/

section Bodies

variable {c : Char} {cs ds rest spelling body : List Char}

theorem isBody_cons_iff (hc : c ≠ '"' ∧ c ≠ '\\') : IsBody (c :: rest) ↔ IsBody rest := by
  constructor
  · intro h
    cases h with
    | plain _ _ h => exact h
    | escape => exact absurd rfl hc.2
  · exact .plain hc.1 hc.2

theorem isBody_escape_iff : IsBody ('\\' :: c :: rest) ↔ IsBody rest := by
  constructor
  · intro h
    cases h with
    | plain _ backslash => exact absurd rfl backslash
    | escape h => exact h
  · exact .escape

theorem isBody_append_iff (hds : ∀ d ∈ ds, d ≠ '"' ∧ d ≠ '\\') :
    IsBody (ds ++ rest) ↔ IsBody rest := by
  induction ds with
  | nil => rfl
  | cons d ds ih =>
    obtain ⟨hd, hds⟩ := List.forall_mem_cons.mp hds
    rw [List.cons_append, isBody_cons_iff hd, ih hds]

/-- A spelling ends inside of a body only where it ends. -/
theorem Spelling.isBody_append_iff (h : Spelling c spelling) :
    IsBody (spelling ++ rest) ↔ IsBody rest := by
  cases h with
  | plain quote backslash => exact isBody_cons_iff ⟨quote, backslash⟩
  | short => exact isBody_escape_iff
  | fixed _ code =>
    exact isBody_escape_iff.trans
      (Text.isBody_append_iff fun d hd => ⟨(code.plain d hd).1, (code.plain d hd).2.1⟩)
  | @braced digits _ _ code =>
    refine isBody_escape_iff.trans
      (@Text.isBody_append_iff ('\x7b' :: (digits ++ ['\x7d'])) rest ?_)
    intro d hd
    rw [List.mem_cons, List.mem_append, List.mem_singleton] at hd
    rcases hd with rfl | hd | rfl
    · decide
    · exact ⟨(code.plain d hd).1, (code.plain d hd).2.1⟩
    · decide

theorem unescapeFrom_append (cs rest : List Char) :
    unescapeFrom cs.length (cs ++ rest) = unescapeFrom 0 rest := by
  induction cs with
  | nil => rfl
  | cons c cs ih => exact ih

/-- A spelling is read as the character that it spells. -/
theorem Spelling.unescapeFrom_append (h : Spelling c spelling) :
    unescapeFrom 0 (spelling ++ rest) = (unescapeFrom 0 rest).map (c :: ·) := by
  have hescape : ∀ letters, Spelling c ('\\' :: letters) →
      unescapeFrom 0 ('\\' :: letters ++ rest) = (unescapeFrom 0 rest).map (c :: ·) := by
    intro letters hletters
    have hread := escape?_eq_some_iff.mpr ⟨letters, rest, rfl, rfl, hletters⟩
    rw [List.cons_append, unescapeFrom, if_pos rfl, hread]
    exact congrArg (Option.map _) (Text.unescapeFrom_append letters rest)
  cases h with
  | plain _ backslash => rw [List.singleton_append, unescapeFrom, if_neg backslash]
  | short escape => exact hescape _ (.short escape)
  | fixed escape code => exact hescape _ (.fixed escape code)
  | braced pos le code => exact hescape _ (.braced pos le code)

@[simp]
theorem spelledBy_nil : SpelledBy [] [] := ⟨[], .nil, rfl⟩

theorem SpelledBy.cons (hc : Spelling c spelling) (h : SpelledBy cs body) :
    SpelledBy (c :: cs) (spelling ++ body) := by
  obtain ⟨spellings, hall, rfl⟩ := h
  exact ⟨spelling :: spellings, .cons hc hall, rfl⟩

theorem SpelledBy.isBody (h : SpelledBy cs body) : IsBody body := by
  obtain ⟨spellings, hall, rfl⟩ := h
  induction hall with
  | nil => exact .nil
  | cons hc _ ih => exact hc.isBody_append_iff.mpr ih

theorem SpelledBy.unescape?_eq (h : SpelledBy cs body) : unescape? body = some cs := by
  obtain ⟨spellings, hall, rfl⟩ := h
  induction hall with
  | nil => rfl
  | cons hc _ ih =>
    rw [List.flatten_cons, unescape?, hc.unescapeFrom_append]
    exact congrArg (Option.map _) ih

theorem spelledBy_of_unescape? (hbody : IsBody body) (h : unescape? body = some cs) :
    SpelledBy cs body := by
  induction hlength : body.length using Nat.strongRecOn generalizing body cs with
  | ind n ih =>
    cases hbody with
    | nil =>
      cases h
      exact spelledBy_nil
    | @plain c rest quote backslash hrest =>
      rw [unescape?, unescapeFrom, if_neg backslash] at h
      obtain ⟨cs, hread, rfl⟩ := Option.map_eq_some_iff.mp h
      exact .cons (.plain quote backslash) (ih _ (by simp [← hlength]) hrest hread rfl)
    | @escape letter rest hrest =>
      rw [unescape?, unescapeFrom, if_pos rfl] at h
      split at h
      · next c taken hread =>
        obtain ⟨letters, rest, hsplit, rfl, hc⟩ := escape?_eq_some_iff.mp hread
        obtain ⟨cs, hread, rfl⟩ := Option.map_eq_some_iff.mp h
        have hescape : IsBody ('\\' :: letters ++ rest) := by
          rw [List.cons_append, ← hsplit]
          exact .escape hrest
        have hlt : rest.length < n := by
          have hlengths := congrArg List.length hsplit
          simp only [List.length_cons, List.length_append] at hlengths hlength
          omega
        rw [hsplit, Text.unescapeFrom_append] at hread
        rw [hsplit]
        exact .cons hc (ih _ hlt (hc.isBody_append_iff.mp hescape) hread rfl)
      · cases h

/-- **A body yields the text that it spells.** -/
theorem unescape?_eq_some_iff (hbody : IsBody body) :
    unescape? body = some cs ↔ SpelledBy cs body :=
  ⟨spelledBy_of_unescape? hbody, SpelledBy.unescape?_eq⟩

end Bodies

/-! ### Code points -/

/-- The characters behind a backslash that are read as **digits of a code point**, as far as the
text goes: so many as the letter of the escape asks for, or those in braces, six at most. -/
def codePointDigits : List Char → List Char
  | 'x' :: cs => cs.take 2
  | 'U' :: cs => cs.take 8
  | 'u' :: '\x7b' :: cs => (cs.takeWhile (· != '\x7d')).take 6
  | 'u' :: cs => cs.take 4
  | _ => []

theorem length_codePointDigits_le (cs : List Char) : (codePointDigits cs).length ≤ 8 := by
  unfold codePointDigits
  split <;> simp only [List.length_take, List.length_nil] <;> omega

/-- They are the digits that the character of an escape is read from, if it is read from any. -/
theorem charOfHex?_codePointDigits {cs : List Char} {c : Char} {n : Nat}
    (h : escape? cs = some (c, n)) :
    codePointDigits cs = [] ∨ charOfHex? (codePointDigits cs) = some c := by
  have hfixed : ∀ {count cs}, fixedEscape? count cs = some (c, n) →
      charOfHex? (cs.take count) = some c := by
    intro count cs h
    obtain ⟨digits, rest, rfl, rfl, hcode, -⟩ := fixedEscape?_eq_some_iff.mp h
    rw [List.take_left]
    exact charOfHex?_eq_some_iff.mpr hcode
  unfold escape? at h
  split at h
  · cases h
  · exact .inr (hfixed h)
  · exact .inr (hfixed h)
  · obtain ⟨digits, rest, rfl, -, hle, hcode, -⟩ := bracedEscape?_eq_some_iff.mp h
    rw [codePointDigits, hcode.takeWhile_brace, List.take_of_length_le hle]
    exact .inr (charOfHex?_eq_some_iff.mpr hcode)
  · next hbrace =>
    rw [codePointDigits.eq_4 _ hbrace]
    exact .inr (hfixed h)
  · next hx hU _ hu =>
    refine .inl ?_
    rw [codePointDigits]
    all_goals
      rintro _ ⟨⟩
      contradiction

theorem hexFrom_lt {ds : List Char} {code : Nat} (h : hexFrom 0 ds = some code) :
    code < 16 ^ ds.length := by
  obtain ⟨values, hvalues, rfl⟩ := hexFrom_eq_some_iff.mp h
  have hlt : ∀ v ∈ values.reverse, v < 16 := by
    intro v hv
    obtain ⟨i, hi, rfl⟩ := List.getElem_of_mem (List.mem_reverse.mp hv)
    exact (hvalues.get (hvalues.length_eq ▸ hi) hi).lt
  rw [Nat.zero_mul, Nat.zero_add, hvalues.length_eq, ← List.length_reverse]
  exact Nat.ofDigits_lt_base_pow_length (by decide) hlt

/-- **No code point leaves a word of 32 bits** while its digits are read, wherever an escape may
stand and whatever follows its backslash: what is read of the digits before one of them is
multiplied by sixteen and added to the value of that digit. -/
theorem codePoint_lt {cs before after : List Char} {d : Char} {code v : Nat}
    (hdigits : codePointDigits cs = before ++ d :: after) (hcode : hexFrom 0 before = some code)
    (hv : hexValue? d = some v) : code * 16 + v < 2 ^ 32 := by
  have hlength := length_codePointDigits_le cs
  rw [hdigits, List.length_append, List.length_cons] at hlength
  have hpow : 16 ^ before.length ≤ 16 ^ 7 := Nat.pow_le_pow_right (by decide) (by omega)
  have hlt := hexFrom_lt hcode
  have hvalue := (hexValue?_lt hv).2
  omega

end Text

end SheetFormula
