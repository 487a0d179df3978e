import SheetFormula.Proofs.Binary64.Shortest
import SheetFormula.Proofs.Token.Tiling

/-!
# Numbers survive text

What the rule of numbers matches is a numeral (`Numeral`), which has a decimal value. It is read as
the number nearest to this value, or rejected where that is infinite (`ReadNearest`), wherever it
stands as an item of a source, and alone it is the only item of its source
(`Item.list_numeral`).

The text of a finite number is such a numeral, behind a minus if the number is negative: it has the
fewest digits of all decimals that are read as the number, and it is read as one item that holds the
number without its sign (`numbers_survive`).
-/

namespace SheetFormula

-- Powers are those of the core library, whatever else is imported.
attribute [local instance (2000)] instPowNat

open Binary64

variable {whole fraction cs rest : List Char} {first : Char}

/-! ### Numerals -/

/-- The decimal value of digits before and behind a point. -/
def decimalValue (whole fraction : List Char) : ℚ :=
  digitsValue whole + digitsValue fraction / 10 ^ fraction.length

/-- The rule of numbers matches the numerals. -/
theorem matches_number_iff :
    TokenRule.number.Matches cs ↔ ∃ whole fraction, Numeral whole fraction cs := by
  constructor
  · rintro ⟨whole, behind, rfl, hne, hwhole, rfl | ⟨fraction, rfl, hfraction⟩⟩
    · refine ⟨whole, [], ⟨hne, ?_⟩, .inr ⟨rfl, List.append_nil whole⟩⟩
      rwa [List.append_nil]
    · refine ⟨whole, fraction, ⟨hne, fun c hc => ?_⟩, .inl rfl⟩
      exact (List.mem_append.mp hc).elim (hwhole c) (hfraction c)
  · rintro ⟨whole, fraction, ⟨hne, hdigits⟩, htext⟩
    have hwhole : ∀ c ∈ whole, Text.isDigit c = true := fun c hc =>
      hdigits c (List.mem_append_left _ hc)
    rcases htext with rfl | ⟨rfl, rfl⟩
    · exact ⟨whole, '.' :: fraction, rfl, hne, hwhole, .inr ⟨fraction, rfl, fun c hc =>
        hdigits c (List.mem_append_right _ hc)⟩⟩
    · exact ⟨cs, [], (List.append_nil cs).symm, hne, hwhole, .inl rfl⟩

/-! ### What a numeral is read as -/

/-- A numeral is **read to the nearest** number: it is rejected just if this is infinite, and
otherwise it is this number, without a sign. -/
structure ReadNearest (whole fraction cs : List Char) (r : Reading) : Prop where
  rejected_iff : r = .fault (.invalidNumber (String.ofList cs)) ↔
    (infinite false).IsNearest (decimalValue whole fraction)
  number_iff : ∀ x, r = .token (.number x) ↔
    x.isFinite = true ∧ x.isNegative = false ∧ x.IsNearest (decimalValue whole fraction)
  rejected_or_number : r = .fault (.invalidNumber (String.ofList cs)) ∨
    ∃ x, r = .token (.number x)

/-- The number nearest to a numeral, among those without a sign. -/
theorem isNearest_decimalValue_iff {x : Binary64} (hsign : x.isNegative = false) :
    x.IsNearest (decimalValue whole fraction) ↔ x = ofDigits whole fraction := by
  have hden : 0 < 10 ^ fraction.length := Nat.pow_pos (by decide)
  have hvalue : decimalValue whole fraction =
      (digitsValue (whole ++ fraction) : ℚ) / (10 ^ fraction.length : Nat) := by
    rw [decimalValue, digitsValue_append]
    push_cast
    field_simp
  rw [hvalue, isNearest_iff hden hsign, ofDigits]

/-- **A numeral is read to the nearest number.** -/
theorem readNearest_numeral (h : Numeral whole fraction cs) :
    ReadNearest whole fraction cs (readNumber cs) := by
  have hnearest (x : Binary64) (hsign : x.isNegative = false) :
      x.IsNearest (decimalValue whole fraction) ↔ x = ofDigits whole fraction :=
    isNearest_decimalValue_iff hsign
  have hcases := ofDigits_cases whole fraction
  rw [readNumber_numeral h]
  generalize ofDigits whole fraction = z at hnearest hcases ⊢
  rcases hcases with ⟨hfinite, hsign⟩ | rfl
  · rw [if_pos hfinite]
    refine ⟨⟨nofun, fun hinfinite => ?_⟩, fun x => ⟨?_, fun ⟨_, hx, hnear⟩ => ?_⟩, .inr ⟨z, rfl⟩⟩
    · rw [← (hnearest _ rfl).mp hinfinite] at hfinite
      cases hfinite
    · rintro ⟨⟩
      exact ⟨hfinite, hsign, (hnearest _ hsign).mpr rfl⟩
    · rw [(hnearest _ hx).mp hnear]
  · have hinfinite : (infinite false).isFinite = false := rfl
    rw [hinfinite, if_neg Bool.false_ne_true]
    refine ⟨iff_of_true rfl ((hnearest _ rfl).mpr rfl),
      fun x => ⟨nofun, fun ⟨hfinite, hx, hnear⟩ => ?_⟩, .inl rfl⟩
    rw [(hnearest _ hx).mp hnear] at hfinite
    cases hfinite

/-! ### Numerals as items -/

/-- The word of an item that begins with a digit is matched by the rule of numbers and read. -/
theorem lexeme_digit (hfirst : Text.isDigit first = true) (rest : List Char) :
    TokenRule.number.Matches (Item.word first rest) ∧
      (lexeme first rest).1 = readNumber (Item.word first rest) := by
  have hlexeme : lexeme first rest = numberLexeme first rest := by
    rw [lexeme, if_pos hfirst]
  rw [Item.word, hlexeme]
  refine ⟨matches_numberLexeme hfirst, ?_⟩
  unfold numberLexeme
  dsimp only

/-- **A numeral alone is one item.** -/
theorem Item.list_numeral (h : Numeral whole fraction cs) :
    list (String.ofList cs) = [⟨readNumber cs, 0, Text.byteLength cs⟩] := by
  have hmatches := matches_number_iff.mpr ⟨whole, fraction, h⟩
  cases cs with
  | nil =>
    obtain ⟨_, _, hnil, hne, -⟩ := hmatches
    exact absurd (List.append_eq_nil_iff.mp hnil.symm).1 hne
  | cons first rest =>
    have hfirst := (length_le_numberLexeme hmatches List.prefix_rfl).1
    -- no longer piece is matched, and the whole text is
    have hcut := word_append_remainder first rest
    have hlength := congrArg List.length hcut
    have hle := TokenRule.length_le_word hmatches List.prefix_rfl
    rw [List.length_append] at hlength
    have hrest : remainder first rest = [] := List.length_eq_zero_iff.mp (by omega)
    rw [hrest, List.append_nil] at hcut
    rw [list, String.toList_ofList, listFrom_lexeme (Text.isBlank_of_isDigit hfirst), hrest,
      (lexeme_digit hfirst rest).2, hcut, Nat.zero_add, listFrom]

/-- **An item that the rule of numbers matches** is read to the nearest number, wherever it
stands. -/
theorem exists_standsIn_readNearest {source : String} {i : Item} (hi : i ∈ Item.list source) :
    ∃ before word after, i.StandsIn source.toList before word after ∧
      ∀ whole fraction, Numeral whole fraction word →
        ReadNearest whole fraction word i.reading := by
  obtain ⟨earlier, later, hsplit⟩ := List.append_of_mem hi
  obtain ⟨before, first, rest, hsource, -, hreading, hstart, hstop, -⟩ := Item.exists_word hsplit
  rw [Nat.zero_add] at hstart
  refine ⟨before, Item.word first rest, Item.remainder first rest, ?_, fun whole fraction h => ?_⟩
  · refine ⟨?_, List.cons_ne_nil _ _, hstart, ?_⟩
    · rw [Item.word_append_remainder]
      exact hsource
    · rw [hstop, hstart, Text.byteLength_append]
  · have hmatches := matches_number_iff.mpr ⟨whole, fraction, h⟩
    have hfront : Item.word first rest <+: first :: rest :=
      ⟨Item.remainder first rest, Item.word_append_remainder first rest⟩
    have hfirst := (length_le_numberLexeme hmatches hfront).1
    rw [hreading, (lexeme_digit hfirst rest).2]
    exact readNearest_numeral h

/-! ### The text of a number -/

/-- A number **survives** its text: behind a minus for the sign the text is a literal, which is read
as one item with the number without its sign, whose other bits are the same, and which has the
fewest digits. -/
def SurvivesText (x : Binary64) : Prop :=
  ∃ whole fraction, LiteralDigits whole fraction ∧
    x.format = (if x.isNegative then "-" else "") ++ String.ofList (literal whole fraction) ∧
    Item.list (String.ofList (literal whole fraction)) =
      [⟨.token (.number x.abs), 0, Text.byteLength (literal whole fraction)⟩] ∧
    x.abs.bits = x.bits % 2 ^ (63 : Nat) ∧ x.abs.Fewest (whole ++ fraction)

theorem format_finite {negative : Bool} {units : Nat} (h : Representable units) :
    (finite negative units h).format =
      (if negative then "-" else "") ++ String.ofList (magnitudeText units) := by
  cases negative with
  | false =>
    rw [format, text_finite_false, if_neg Bool.false_ne_true, String.empty_append]
  | true =>
    have hsign : "-" = String.ofList ['-'] := rfl
    rw [format, text_finite_true, if_pos rfl, hsign, ← String.ofList_append, List.singleton_append]

/-- **A finite number survives its text.** -/
theorem survivesText {x : Binary64} (hx : x.isFinite = true) : SurvivesText x := by
  have hbits := bits_abs hx
  obtain ⟨negative, units, hunits, rfl⟩ := exists_finite hx
  obtain ⟨whole, fraction, htext, hdigits, hread, hfewest⟩ := exists_fewest hunits
  have hnumeral := numeral_literal hdigits
  have hfinite : (finite false units hunits).isFinite = true := rfl
  refine ⟨whole, fraction, hdigits, ?_, ?_, hbits, hfewest⟩
  · rw [format_finite, htext, isNegative]
  · rw [Item.list_numeral hnumeral, readNumber_numeral hnumeral, hread, if_pos hfinite]
    rfl

/-- **Numbers survive text.** Every finite number does. Conversely every piece of text that the rule
of numbers matches is read to the number nearest to its decimal value: alone, where it is one item,
and as an item of any source. -/
theorem numbers_survive :
    (∀ x : Binary64, x.isFinite = true → SurvivesText x) ∧
    (∀ cs, TokenRule.number.Matches cs → ∃ whole fraction r, Numeral whole fraction cs ∧
      Item.list (String.ofList cs) = [⟨r, 0, Text.byteLength cs⟩] ∧
        ReadNearest whole fraction cs r) ∧
    ∀ source, ∀ i ∈ Item.list source,
      ∃ before word after, i.StandsIn source.toList before word after ∧
        ∀ whole fraction, Numeral whole fraction word →
          ReadNearest whole fraction word i.reading := by
  refine ⟨fun x hx => survivesText hx, fun cs hcs => ?_,
    fun source i hi => exists_standsIn_readNearest hi⟩
  obtain ⟨whole, fraction, hnumeral⟩ := matches_number_iff.mp hcs
  exact ⟨whole, fraction, readNumber cs, hnumeral, Item.list_numeral hnumeral,
    readNearest_numeral hnumeral⟩

/-- The digits of `2 ^ 1024 - 2 ^ 970`, halfway between the greatest finite number and the end of
the range. -/
def halfwayToEnd : List Char := Nat.toDigits 10 (2 ^ (1024 : Nat) - 2 ^ (970 : Nat))

theorem representable_one : Representable 1 := by decide +kernel

/-- At both ends of the range: the smallest number behind a minus survives its text, and halfway to
the upper end the nearest number is infinite, as the greatest finite one has odd bits. The only item
there is the fault that says so. -/
theorem numbers_survive_ends :
    SurvivesText (finite true 1 representable_one) ∧
      (TokenRule.number.Matches halfwayToEnd ∧ ∃ whole fraction,
        Numeral whole fraction halfwayToEnd ∧
          (infinite false).IsNearest (decimalValue whole fraction)) ∧
      ∃ i ∈ Item.list (String.ofList halfwayToEnd), ∃ before word after,
        i.StandsIn halfwayToEnd before word after ∧
          i.reading = .fault (.invalidNumber (String.ofList halfwayToEnd)) := by
  have hdigits : LiteralDigits halfwayToEnd [] := by
    refine ⟨Nat.toDigits_ne_nil, fun c hc => ?_⟩
    rw [List.append_nil] at hc
    exact isDigit_of_mem_toDigits hc
  have hnumeral : Numeral halfwayToEnd [] halfwayToEnd := ⟨hdigits, .inr ⟨rfl, rfl⟩⟩
  have hinfinite : (ofDigits halfwayToEnd []).isFinite = false := by
    rw [ofDigits, List.append_nil, digitsValue, halfwayToEnd, Nat.ofDigitChars_ten_toDigits]
    decide +kernel
  have hread := readNumber_numeral hnumeral
  rw [hinfinite, if_neg Bool.false_ne_true] at hread
  have hmatches := matches_number_iff.mpr ⟨_, _, hnumeral⟩
  refine ⟨numbers_survive.1 _ rfl, ⟨hmatches, ?_⟩, ?_⟩
  · obtain ⟨whole, fraction, r, hnumeral', hlist, hnearest⟩ := numbers_survive.2.1 _ hmatches
    rw [Item.list_numeral hnumeral, hread] at hlist
    have hrejected : r = .fault (.invalidNumber (String.ofList halfwayToEnd)) :=
      (congrArg Item.reading (List.cons.inj hlist).1).symm
    exact ⟨whole, fraction, hnumeral', hnearest.rejected_iff.mp hrejected⟩
  · have hmem := List.mem_singleton_self
      (⟨readNumber halfwayToEnd, 0, Text.byteLength halfwayToEnd⟩ : Item)
    rw [← Item.list_numeral hnumeral] at hmem
    obtain ⟨before, word, after, hstands, -⟩ := numbers_survive.2.2 _ _ hmem
    rw [String.toList_ofList] at hstands
    refine ⟨_, hmem, before, word, after, hstands, ?_⟩
    dsimp only
    exact hread

end SheetFormula
