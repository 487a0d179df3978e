import Mathlib.Data.List.TakeWhile
import SheetFormula.Proofs.Binary64.ReadBack
import SheetFormula.Proofs.Text.Quoted
import SheetFormula.Proofs.Token.Items

/-!
# Tokens are read back

A token is read from its spelling, provided that what follows cannot belong to it
(`Token.readings_spelling`): a space, a semicolon or a parenthesis never does. Not every token has a
spelling. Those that have one are the finite numbers without a sign, the identifiers, all texts and
all symbols, and only these are ever read (`Item.spellable_of_mem_list`).
-/

namespace SheetFormula

/-! ### Characters -/

namespace Unicode

variable {c : Char}

theorem exists_range_of_inRanges {ranges : List (Nat × Nat)} {code : Nat}
    (h : inRanges ranges code = true) : ∃ r ∈ ranges, r.1 ≤ code ∧ code ≤ r.2 := by
  induction ranges with
  | nil => cases h
  | cons r ranges ih =>
    rw [inRanges] at h
    split at h
    · cases h
    · next hfirst =>
      rcases Bool.or_eq_true_iff.mp h with h | h
      · exact ⟨r, List.mem_cons_self .., Nat.le_of_not_lt hfirst, of_decide_eq_true h⟩
      · obtain ⟨r', hr', hcode⟩ := ih h
        exact ⟨r', List.mem_cons_of_mem _ hr', hcode⟩

/-- The code points of white space. -/
def blankCodes : List Nat :=
  [0x9, 0xA, 0xB, 0xC, 0xD, 0x20, 0x85, 0xA0, 0x1680, 0x2000, 0x2001, 0x2002, 0x2003, 0x2004,
    0x2005, 0x2006, 0x2007, 0x2008, 0x2009, 0x200A, 0x2028, 0x2029, 0x202F, 0x205F, 0x3000]

theorem mem_blankCodes (h : isBlank c = true) : c.toNat ∈ blankCodes := by
  obtain ⟨r, hr, hfirst, hlast⟩ := exists_range_of_inRanges h
  simp only [blankRanges, List.mem_cons, List.not_mem_nil, or_false] at hr
  simp only [blankCodes, List.mem_cons, List.not_mem_nil, or_false]
  rcases hr with rfl | rfl | rfl | rfl | rfl | rfl | rfl | rfl | rfl | rfl <;> omega

/-- Letters are no white space. -/
theorem isBlank_of_isLetter (h : isLetter c = true) : isBlank c = false := by
  have hletters : ∀ code ∈ blankCodes, inRanges letterRanges code = false := by decide +kernel
  by_contra hblank
  have hcode := hletters c.toNat (mem_blankCodes (Bool.eq_true_of_not_eq_false hblank))
  exact Bool.false_ne_true (hcode.symm.trans h)

/-- No letter stands before the first one of the basic alphabet. -/
theorem le_toNat_of_isLetter (h : isLetter c = true) : 0x41 ≤ c.toNat := by
  by_contra hlt
  rw [isLetter, letterRanges, inRanges, if_pos (Nat.lt_of_not_le hlt)] at h
  cases h

theorem isDigit_of_isLetter (h : isLetter c = true) : Text.isDigit c = false := by
  have hcode := le_toNat_of_isLetter h
  by_contra hdigit
  rw [Bool.not_eq_false, Text.isDigit, Bool.and_eq_true] at hdigit
  have hnine : c.toNat ≤ '9'.toNat := of_decide_eq_true hdigit.2
  exact absurd (Nat.le_trans hcode hnine) (by decide)

theorem ne_quote_of_isLetter (h : isLetter c = true) : c ≠ '"' := by
  rintro rfl
  exact absurd (le_toNat_of_isLetter h) (by decide)

end Unicode

/-- Digits are no white space. -/
theorem Text.isBlank_of_isDigit {c : Char} (h : isDigit c = true) : Unicode.isBlank c = false := by
  rw [isDigit, Bool.and_eq_true] at h
  have hzero : '0'.toNat ≤ c.toNat := of_decide_eq_true h.1
  have hnine : c.toNat ≤ '9'.toNat := of_decide_eq_true h.2
  have hcodes : ∀ code ∈ Unicode.blankCodes, code < '0'.toNat ∨ '9'.toNat < code := by decide
  by_contra hblank
  have hcode := hcodes c.toNat (Unicode.mem_blankCodes (Bool.eq_true_of_not_eq_false hblank))
  omega

/-! ### Names -/

/-- Whether a text is an **identifier**: a letter, then letters, decimal digits and underscores. -/
def IsIdentifier (s : String) : Prop :=
  s.toList.head?.any Unicode.isLetter = true ∧ s.toList.tail.all isNameChar = true

instance (s : String) : Decidable (IsIdentifier s) := inferInstanceAs (Decidable (_ ∧ _))

theorem isIdentifier_iff {s : String} :
    IsIdentifier s ↔
      ∃ c cs, s.toList = c :: cs ∧ Unicode.isLetter c = true ∧ ∀ d ∈ cs, isNameChar d = true := by
  unfold IsIdentifier
  cases s.toList with
  | nil => simp
  | cons c cs => simp

/-! ### Tokens with a spelling -/

namespace Token

/-- Whether a token can be spelled. -/
def Spellable : Token → Prop
  | number x => x.isFinite = true ∧ x.isNegative = false
  | text _ => True
  | name s => IsIdentifier s
  | symbol _ => True

instance : DecidablePred Spellable
  | number x => inferInstanceAs (Decidable (x.isFinite = true ∧ x.isNegative = false))
  | name s => inferInstanceAs (Decidable (IsIdentifier s))
  | text _ | symbol _ => inferInstanceAs (Decidable True)

/-- The spelling of a token. -/
def spelling : Token → List Char
  | number x => x.text
  | text s => Text.quoted s.toList
  | name s => s.toList
  | symbol s => s.text.toList

end Token

/-! ### Where a token ends -/

section Prefix

variable {p : Char → Bool} {cs rest : List Char}

theorem takeWhile_append_eq_left (hcs : ∀ c ∈ cs, p c = true)
    (hrest : ∀ c ∈ rest.head?, p c = false) : (cs ++ rest).takeWhile p = cs := by
  rw [List.takeWhile_append_of_pos hcs]
  cases rest with
  | nil => exact List.append_nil _
  | cons c rest => rw [List.takeWhile_cons_of_neg (by simp [hrest c rfl]), List.append_nil]

theorem dropWhile_append_eq_right (hcs : ∀ c ∈ cs, p c = true)
    (hrest : ∀ c ∈ rest.head?, p c = false) : (cs ++ rest).dropWhile p = rest := by
  rw [List.dropWhile_append_of_pos hcs]
  cases rest with
  | nil => rfl
  | cons c rest => rw [List.dropWhile_cons_of_neg (by simp [hrest c rfl])]

end Prefix

/-- A text is **delimited** in front when it begins with nothing that could belong to a token before
it. -/
def Delimited (cs : List Char) : Prop := ∀ c ∈ cs.head?, c = ' ' ∨ c = ';' ∨ c = '(' ∨ c = ')'

namespace Delimited

variable {rest : List Char}

theorem nil : Delimited [] := by simp [Delimited]

theorem cons {c : Char} (h : c = ' ' ∨ c = ';' ∨ c = '(' ∨ c = ')') : Delimited (c :: rest) := by
  simpa [Delimited] using h

/-- A class of characters that holds no delimiter does not hold the first one here. -/
theorem head_not_mem (hrest : Delimited rest) {p : Char → Bool}
    (hp : p ' ' = false ∧ p ';' = false ∧ p '(' = false ∧ p ')' = false) :
    ∀ c ∈ rest.head?, p c = false := by
  obtain ⟨hspace, hsemicolon, hleft, hright⟩ := hp
  intro c hc
  rcases hrest c hc with rfl | rfl | rfl | rfl <;> assumption

end Delimited

/-! ### Numbers -/

section Literals

variable {whole fraction cs rest : List Char}

/-- No digit begins the fraction of a literal with its point, and none what follows it. -/
theorem isDigit_head_fractionText (hrest : Delimited rest) :
    ∀ c ∈ (Binary64.fractionText fraction ++ rest).head?, Text.isDigit c = false := by
  cases fraction with
  | nil => exact hrest.head_not_mem (by decide)
  | cons d fraction =>
    intro c hc
    cases hc
    decide

theorem fractionLength_append (hfraction : ∀ c ∈ fraction, Text.isDigit c = true)
    (hrest : Delimited rest) :
    fractionLength (Binary64.fractionText fraction ++ rest) =
      (Binary64.fractionText fraction).length := by
  cases fraction with
  | nil =>
    cases rest with
    | nil => rfl
    | cons c rest => rcases hrest c rfl with rfl | rfl | rfl | rfl <;> rfl
  | cons d fraction =>
    have hhead : ∀ c ∈ rest.head?, Text.isDigit c = false := hrest.head_not_mem (by decide)
    have htake := takeWhile_append_eq_left hfraction hhead
    exact congrArg (·.length + 1) htake

/-- A **numeral** with the digits `whole` before its point and `fraction` behind it. The point may
be missing if there are no digits behind it. -/
structure Numeral (whole fraction cs : List Char) : Prop where
  digits : Binary64.LiteralDigits whole fraction
  text_eq : cs = whole ++ '.' :: fraction ∨ (fraction = [] ∧ cs = whole)

theorem numeral_literal (h : Binary64.LiteralDigits whole fraction) :
    Numeral whole fraction (Binary64.literal whole fraction) := by
  refine ⟨h, ?_⟩
  cases fraction with
  | nil => exact .inr ⟨rfl, List.append_nil whole⟩
  | cons d fraction => exact .inl rfl

/-- A numeral is split at its point. -/
theorem Numeral.exists_split (h : Numeral whole fraction cs) :
    ∃ behind, cs = whole ++ behind ∧ (∀ c ∈ behind.head?, Text.isDigit c = false) ∧
      behind.drop 1 = fraction := by
  rcases h.text_eq with rfl | ⟨rfl, rfl⟩
  · refine ⟨'.' :: fraction, rfl, ?_, rfl⟩
    rintro c ⟨⟩
    decide
  · exact ⟨[], (List.append_nil cs).symm, nofun, rfl⟩

theorem readNumber_numeral (h : Numeral whole fraction cs) :
    readNumber cs =
      if (Binary64.ofDigits whole fraction).isFinite then
        .token (.number (Binary64.ofDigits whole fraction))
      else .fault (.invalidNumber (String.ofList cs)) := by
  have hwhole : ∀ c ∈ whole, Text.isDigit c = true := fun c hc =>
    h.digits.2 c (List.mem_append_left _ hc)
  obtain ⟨behind, rfl, hbehind, hfraction⟩ := h.exists_split
  unfold readNumber
  simp only [takeWhile_append_eq_left hwhole hbehind, dropWhile_append_eq_right hwhole hbehind,
    hfraction]

theorem readNumber_literal (h : Binary64.LiteralDigits whole fraction)
    (hfinite : (Binary64.ofDigits whole fraction).isFinite = true) :
    readNumber (Binary64.literal whole fraction) =
      .token (.number (Binary64.ofDigits whole fraction)) := by
  rw [readNumber_numeral (numeral_literal h), if_pos hfinite]

/-- A literal is read as its number. -/
theorem Item.readings_literal (h : Binary64.LiteralDigits whole fraction)
    (hfinite : (Binary64.ofDigits whole fraction).isFinite = true) (hrest : Delimited rest) :
    readings (Binary64.literal whole fraction ++ rest) =
      .token (.number (Binary64.ofDigits whole fraction)) :: readings rest := by
  obtain ⟨first, whole, rfl⟩ := List.exists_cons_of_ne_nil h.1
  have hfirst : Text.isDigit first = true := h.2 first (List.mem_cons_self ..)
  have hwhole : ∀ c ∈ whole, Text.isDigit c = true := fun c hc =>
    h.2 c (List.mem_cons_of_mem _ (List.mem_append_left _ hc))
  have hfraction : ∀ c ∈ fraction, Text.isDigit c = true := fun c hc =>
    h.2 c (List.mem_append_right _ hc)
  have hlexeme : lexeme first (whole ++ (Binary64.fractionText fraction ++ rest)) =
      (readNumber (Binary64.literal (first :: whole) fraction),
        (whole ++ Binary64.fractionText fraction).length) := by
    rw [lexeme, if_pos hfirst, numberLexeme,
      takeWhile_append_eq_left hwhole (isDigit_head_fractionText hrest), List.drop_left,
      fractionLength_append hfraction hrest, ← List.length_append, ← List.append_assoc,
      List.take_left]
    rfl
  rw [Binary64.literal, List.append_assoc, List.cons_append,
    readings_lexeme (Text.isBlank_of_isDigit hfirst), hlexeme, readNumber_literal h hfinite,
    ← List.append_assoc, List.drop_left]

end Literals

/-! ### The other tokens -/

namespace Item

variable {rest : List Char}

theorem readings_quoted (cs rest : List Char) :
    readings (Text.quoted cs ++ rest) = .token (.text (String.ofList cs)) :: readings rest := by
  have hquoted : Text.quoted cs ++ rest =
      '"' :: (cs.flatMap (Text.spelled Unicode.isControl) ++ '"' :: rest) := by
    simp [Text.quoted, Text.quotedHiding]
  have hlexeme : lexeme '"' (cs.flatMap (Text.spelled Unicode.isControl) ++ '"' :: rest) =
      (.token (.text (String.ofList cs)),
        (cs.flatMap (Text.spelled Unicode.isControl) ++ ['"']).length) := by
    change textLexeme _ = _
    simp only [textLexeme, Text.bodyLength?_quotedBody, List.take_left,
      Text.unescape?_quotedBody, List.length_append, List.length_singleton]
  rw [hquoted, readings_lexeme (by decide), hlexeme, List.append_cons _ _ rest, List.drop_left]

theorem readings_identifier {s : String} (h : IsIdentifier s) (hrest : Delimited rest) :
    readings (s.toList ++ rest) = .token (.name s) :: readings rest := by
  obtain ⟨c, cs, hs, hletter, hcs⟩ := isIdentifier_iff.mp h
  have hlexeme : lexeme c (cs ++ rest) = (.token (.name s), cs.length) := by
    rw [lexeme, if_neg (by simp [Unicode.isDigit_of_isLetter hletter]),
      if_neg (Unicode.ne_quote_of_isLetter hletter), if_pos hletter, nameLexeme,
      takeWhile_append_eq_left hcs (hrest.head_not_mem (by decide +kernel)), ← hs,
      String.ofList_toList]
  rw [hs, List.cons_append, readings_lexeme (Unicode.isBlank_of_isLetter hletter), hlexeme,
    List.drop_left]

/-- A symbol is cut off at the front. -/
theorem readings_of_symbolAt {c : Char} {s : Symbol} (cs : List Char)
    (h : lexeme c (cs ++ rest) = (.token (.symbol s), cs.length))
    (hc : Unicode.isBlank c = false) :
    readings (c :: (cs ++ rest)) = .token (.symbol s) :: readings rest := by
  rw [readings_lexeme hc, h, List.drop_left]

/-- Two symbols go on where a longer one could; what follows them must not make it one. -/
theorem readings_symbol {s : Symbol} (hrest : s = .greater ∨ s = .less → Delimited rest) :
    readings (s.text.toList ++ rest) = .token (.symbol s) :: readings rest := by
  have hshort : s = .greater ∨ s = .less →
      lexeme '>' rest = (.token (.symbol .greater), 0) ∧
        lexeme '<' rest = (.token (.symbol .less), 0) := by
    intro hs
    cases rest with
    | nil => exact ⟨rfl, rfl⟩
    | cons c rest => rcases hrest hs c rfl with rfl | rfl | rfl | rfl <;> exact ⟨rfl, rfl⟩
  cases s
  case greater => exact readings_of_symbolAt [] (hshort (.inl rfl)).1 (by decide)
  case less => exact readings_of_symbolAt [] (hshort (.inr rfl)).2 (by decide)
  case notEqual => exact readings_of_symbolAt ['>'] rfl (by decide)
  case greaterEqual | lessEqual => exact readings_of_symbolAt ['='] rfl (by decide)
  all_goals exact readings_of_symbolAt [] rfl (by decide)

end Item

theorem Binary64.exists_eq_finite {x : Binary64} (h : x.isFinite = true)
    (hsign : x.isNegative = false) : ∃ units hunits, x = .finite false units hunits := by
  obtain ⟨negative, units, hunits, rfl⟩ := exists_finite h
  obtain rfl : negative = false := hsign
  exact ⟨units, hunits, rfl⟩

/-- **A token is read from its spelling**, whatever comes behind a delimiter. -/
theorem Token.readings_spelling {t : Token} {rest : List Char} (h : t.Spellable)
    (hrest : Delimited rest) :
    Item.readings (t.spelling ++ rest) = .token t :: Item.readings rest := by
  cases t with
  | number x =>
    obtain ⟨units, hunits, rfl⟩ := Binary64.exists_eq_finite h.1 h.2
    obtain ⟨whole, fraction, htext, hdigits, hx⟩ := Binary64.exists_magnitudeText_eq hunits
    rw [spelling, Binary64.text_finite_false, htext,
      Item.readings_literal hdigits (by rw [hx]; rfl) hrest, hx]
  | text s =>
    have hquoted := Item.readings_quoted s.toList rest
    rwa [String.ofList_toList] at hquoted
  | name s => exact Item.readings_identifier h hrest
  | symbol s => exact Item.readings_symbol fun _ => hrest

/-! ### What is read has a spelling -/

/-- Without a sign a number is finite or infinite. -/
theorem Binary64.ofDigits_cases (whole fraction : List Char) :
    ((ofDigits whole fraction).isFinite = true ∧ (ofDigits whole fraction).isNegative = false) ∨
      ofDigits whole fraction = infinite false := by
  rw [ofDigits, ofRatio, ofUnitRatio, ofUnits]
  split
  · exact .inl ⟨rfl, rfl⟩
  · exact .inr rfl

theorem Binary64.isNegative_ofDigits (whole fraction : List Char) :
    (ofDigits whole fraction).isNegative = false := by
  rcases ofDigits_cases whole fraction with ⟨-, hsign⟩ | hinfinite
  · exact hsign
  · rw [hinfinite]
    rfl

/-- A token at the front of a text can be spelled. -/
theorem Token.spellable_of_lexeme {c : Char} {cs : List Char} {t : Token}
    (h : (lexeme c cs).1 = .token t) : t.Spellable := by
  unfold lexeme at h
  split_ifs at h with hdigit hquote hletter
  · unfold numberLexeme readNumber at h
    dsimp only at h
    split at h
    · next hfinite =>
      cases h
      exact ⟨hfinite, Binary64.isNegative_ofDigits _ _⟩
    · cases h
  · unfold textLexeme at h
    split at h
    · cases h
    · split at h <;> cases h
      trivial
  · cases h
    have hname : (String.ofList (c :: cs.takeWhile isNameChar)).toList = _ := String.toList_ofList
    exact isIdentifier_iff.mpr ⟨c, _, hname, hletter, fun d hd => List.mem_takeWhile_imp hd⟩
  · split at h <;> cases h
    trivial

/-- **Only tokens that can be spelled are read.** -/
theorem Item.spellable_of_mem_list {source : String} {i : Item} {t : Token}
    (hi : i ∈ list source) (ht : i.reading = .token t) : t.Spellable := by
  obtain ⟨-, c, cs, -, -, -, hread⟩ := exists_lexeme hi
  exact Token.spellable_of_lexeme (hread.symm.trans ht)

theorem Lexes.spellable {source : String} {ts : List Token} (h : Lexes source ts) :
    ∀ t ∈ ts, t.Spellable := by
  intro t ht
  have hmem : Reading.token t ∈ (Item.list source).map Item.reading := by
    rw [h]
    exact List.mem_map_of_mem ht
  obtain ⟨i, hi, hreading⟩ := List.mem_map.mp hmem
  exact Item.spellable_of_mem_list hi hreading

/-! ### Texts of several tokens -/

/-- A text **spells** tokens when they are read from it, whatever comes behind a delimiter. -/
def Spells (cs : List Char) (ts : List Token) : Prop :=
  ∀ rest, Delimited rest → Item.readings (cs ++ rest) = ts.map Reading.token ++ Item.readings rest

namespace Spells

variable {cs ds : List Char} {ts us : List Token}

theorem nil : Spells [] [] := fun _ _ => rfl

theorem token {t : Token} (h : t.Spellable) : Spells t.spelling [t] := fun _ hrest =>
  Token.readings_spelling h hrest

/-- A space in front has no part in the tokens. -/
theorem space (h : Spells cs ts) : Spells (' ' :: cs) ts := by
  intro rest hrest
  rw [List.cons_append, Item.readings_blank (by decide)]
  exact h rest hrest

/-- A symbol that is not the front of another one stands before anything. -/
theorem symbol {s : Symbol} (h : Spells cs ts) (hgreater : s ≠ .greater) (hless : s ≠ .less) :
    Spells (s.text.toList ++ cs) (.symbol s :: ts) := by
  intro rest hrest
  have hs : s = .greater ∨ s = .less → Delimited (cs ++ rest) := by
    rintro (hs | hs)
    · exact absurd hs hgreater
    · exact absurd hs hless
  rw [List.append_assoc, Item.readings_symbol hs, h rest hrest]
  rfl

/-- Texts are put side by side where a delimiter begins the second one. -/
theorem append {c : Char} (h : Spells cs ts) (h' : Spells (c :: ds) us)
    (hc : c = ' ' ∨ c = ';' ∨ c = '(' ∨ c = ')') : Spells (cs ++ c :: ds) (ts ++ us) := by
  intro rest hrest
  rw [List.append_assoc, h (c :: ds ++ rest) (Delimited.cons hc), h' rest hrest, List.map_append,
    List.append_assoc]

/-- A text is put before another one with a semicolon and a space between them. -/
theorem separated (h : Spells cs ts) (h' : Spells ds us) :
    Spells (cs ++ ';' :: ' ' :: ds) (ts ++ .symbol .semicolon :: us) :=
  h.append (h'.space.symbol (s := .semicolon) (by decide) (by decide)) (.inr (.inl rfl))

/-- A text is put before a closing parenthesis. -/
theorem closed (h : Spells cs ts) : Spells (cs ++ [')']) (ts ++ [.symbol .rightParen]) :=
  h.append (nil.symbol (s := .rightParen) (by decide) (by decide)) (.inr (.inr (.inr rfl)))

/-- A text is put behind an opening parenthesis. -/
theorem opened (h : Spells cs ts) : Spells ('(' :: cs) (.symbol .leftParen :: ts) :=
  h.symbol (s := .leftParen) (by decide) (by decide)

/-- A text lexes to the tokens that it spells. -/
theorem lexes (h : Spells cs ts) : Lexes (String.ofList cs) ts := by
  have hreadings := h [] .nil
  rw [List.append_nil, Item.readings_nil, List.append_nil] at hreadings
  rw [Lexes, Item.map_reading_list, String.toList_ofList]
  exact hreadings

/-- Tokens that can be spelled have a text. -/
theorem exists_text (h : ∀ t ∈ ts, t.Spellable) : ∃ cs, Spells cs ts := by
  induction ts with
  | nil => exact ⟨[], nil⟩
  | cons t ts ih =>
    obtain ⟨ht, hts⟩ := List.forall_mem_cons.mp h
    obtain ⟨cs, hcs⟩ := ih hts
    exact ⟨t.spelling ++ ' ' :: cs, (token ht).append hcs.space (.inl rfl)⟩

end Spells

end SheetFormula
