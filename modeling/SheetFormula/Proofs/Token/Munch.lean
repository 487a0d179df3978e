import SheetFormula.Proofs.Token.ReadBack

/-!
# The longest token is read

Each kind of token has a rule that says which pieces of text are tokens of the kind
(`TokenRule.Matches`). What is read at the front of a text as a token is a piece that the rule of
the token matches (`Token.matches_word`), and no rule matches a longer piece at the front of that
text, neither the rule of the token nor any other (`TokenRule.length_le_word`).
-/

namespace SheetFormula

/-! ### The rules of tokens -/

/-- The rules by which tokens are read, one for each kind of token and for each symbol. -/
inductive TokenRule where
  | number | text | name
  | symbol (s : Symbol)

namespace TokenRule

/-- Whether a piece of text **matches** a rule:

* digits, perhaps with a point and any number of digits behind them;
* a body between quotes;
* a letter, and then letters, decimal digits and underscores;
* the spelling of the symbol. -/
def Matches : TokenRule → List Char → Prop
  | number, cs => ∃ whole fraction, cs = whole ++ fraction ∧ whole ≠ [] ∧
      (∀ d ∈ whole, Text.isDigit d = true) ∧
      (fraction = [] ∨ ∃ ds, fraction = '.' :: ds ∧ ∀ d ∈ ds, Text.isDigit d = true)
  | text, cs => ∃ body, cs = '"' :: (body ++ ['"']) ∧ Text.IsBody body
  | name, cs => IsIdentifier (String.ofList cs)
  | symbol s, cs => cs = s.text.toList

end TokenRule

/-- The rule of a token. -/
def Token.rule : Token → TokenRule
  | number _ => .number
  | text _ => .text
  | name _ => .name
  | symbol s => .symbol s

/-! ### What is read matches -/

/-- The characters that pass a test at the front of a text are so many at its front. -/
theorem take_length_takeWhile {p : Char → Bool} (cs : List Char) :
    cs.take (cs.takeWhile p).length = cs.takeWhile p :=
  (List.prefix_iff_eq_take.mp (List.takeWhile_prefix p)).symm

section Matches

variable {c : Char} {cs : List Char}

theorem fractionLength_take (cs : List Char) : cs.take (fractionLength cs) = [] ∨
    ∃ ds, cs.take (fractionLength cs) = '.' :: ds ∧ ∀ d ∈ ds, Text.isDigit d = true := by
  unfold fractionLength
  split
  · next ds =>
    refine .inr ⟨ds.takeWhile Text.isDigit, ?_, fun d hd => List.mem_takeWhile_imp hd⟩
    rw [List.take_succ_cons, take_length_takeWhile]
  · exact .inl rfl

theorem matches_numberLexeme (hc : Text.isDigit c = true) :
    TokenRule.number.Matches (c :: cs.take (numberLexeme c cs).2) := by
  refine ⟨c :: cs.takeWhile Text.isDigit, _, ?_, List.cons_ne_nil _ _,
    List.forall_mem_cons.mpr ⟨hc, fun d hd => List.mem_takeWhile_imp hd⟩,
    fractionLength_take (cs.drop (cs.takeWhile Text.isDigit).length)⟩
  rw [numberLexeme, List.take_add, take_length_takeWhile, List.cons_append]

theorem rule_of_numberLexeme {t : Token} (h : (numberLexeme c cs).1 = .token t) :
    t.rule = .number := by
  unfold numberLexeme readNumber at h
  dsimp only at h
  split at h <;> cases h
  rfl

theorem matches_textLexeme {t : Token} (h : (textLexeme cs).1 = .token t) :
    t.rule.Matches ('"' :: cs.take (textLexeme cs).2) := by
  unfold textLexeme at h ⊢
  split at h
  · cases h
  · next n hn =>
    obtain ⟨hbody, hend⟩ := Text.isBody_of_bodyLength? hn
    split at h
    · cases h
      exact ⟨cs.take n, congrArg (List.cons '"') hend, hbody⟩
    · cases h

theorem matches_nameLexeme (hc : Unicode.isLetter c = true) :
    TokenRule.name.Matches (c :: cs.take (nameLexeme c cs).2) := by
  refine isIdentifier_iff.mpr ⟨c, cs.takeWhile isNameChar, ?_, hc,
    fun d hd => List.mem_takeWhile_imp hd⟩
  rw [String.toList_ofList, nameLexeme, take_length_takeWhile]

theorem matches_symbolAt? {s : Symbol} {n : Nat} (h : symbolAt? c cs = some (s, n)) :
    (TokenRule.symbol s).Matches (c :: cs.take n) := by
  unfold symbolAt? at h
  split at h <;> cases h <;> rfl

/-- **A token is a piece of text that its rule matches.** -/
theorem Token.matches_word {t : Token} (h : (lexeme c cs).1 = .token t) :
    t.rule.Matches (Item.word c cs) := by
  unfold Item.word
  unfold lexeme at h ⊢
  split_ifs at h ⊢ with hdigit hquote hletter
  · rw [rule_of_numberLexeme h]
    exact matches_numberLexeme hdigit
  · rw [hquote]
    exact matches_textLexeme h
  · cases h
    exact matches_nameLexeme hletter
  · cases hsymbol : symbolAt? c cs with
    | some found =>
      rw [hsymbol] at h
      cases h
      exact matches_symbolAt? hsymbol
    | none =>
      rw [hsymbol] at h
      cases h

end Matches

/-! ### No longer piece matches -/

section Longest

variable {c : Char} {cs ds rest longer : List Char}

theorem length_le_takeWhile {p : Char → Bool} (hds : ∀ d ∈ ds, p d = true) (h : ds <+: cs) :
    ds.length ≤ (cs.takeWhile p).length := by
  obtain ⟨rest, rfl⟩ := h
  rw [List.takeWhile_append_of_pos hds, List.length_append]
  exact Nat.le_add_right ..

theorem length_le_numberLexeme (h : TokenRule.number.Matches longer)
    (hfront : longer <+: c :: cs) :
    Text.isDigit c = true ∧ longer.length ≤ (numberLexeme c cs).2 + 1 := by
  obtain ⟨whole, fraction, rfl, hne, hwhole, hfraction⟩ := h
  obtain ⟨d, ds, rfl⟩ := List.exists_cons_of_ne_nil hne
  obtain ⟨hd, hds⟩ := List.forall_mem_cons.mp hwhole
  rw [List.cons_append, List.cons_prefix_cons] at hfront
  obtain ⟨rfl, hfront⟩ := hfront
  refine ⟨hd, ?_⟩
  rw [numberLexeme]
  rcases hfraction with rfl | ⟨fs, rfl, hfs⟩
  · rw [List.append_nil] at hfront ⊢
    have hle := length_le_takeWhile hds hfront
    rw [List.length_cons]
    dsimp only
    omega
  · obtain ⟨rest, rfl⟩ := hfront
    have htake : (ds ++ ('.' :: fs ++ rest)).takeWhile Text.isDigit = ds := by
      refine takeWhile_append_eq_left hds fun d hd => ?_
      cases hd
      decide
    have hfraction : fractionLength ('.' :: fs ++ rest) =
        ((fs ++ rest).takeWhile Text.isDigit).length + 1 := rfl
    have hle := length_le_takeWhile hfs (List.prefix_append fs rest)
    rw [List.append_assoc, htake, List.drop_left, hfraction]
    simp only [List.length_cons, List.length_append]
    omega

theorem length_le_textLexeme (h : TokenRule.text.Matches longer) (hfront : longer <+: c :: cs) :
    c = '"' ∧ longer.length ≤ (textLexeme cs).2 + 1 := by
  obtain ⟨body, rfl, hbody⟩ := h
  rw [List.cons_prefix_cons] at hfront
  obtain ⟨rfl, rest, rfl⟩ := hfront
  refine ⟨rfl, ?_⟩
  have hlength := hbody.bodyLength?_append rest
  rw [List.append_assoc, List.singleton_append, textLexeme, hlength]
  dsimp only
  split <;> simp

theorem length_le_nameLexeme (h : TokenRule.name.Matches longer) (hfront : longer <+: c :: cs) :
    Unicode.isLetter c = true ∧ longer.length ≤ (nameLexeme c cs).2 + 1 := by
  obtain ⟨d, ds, hlonger, hletter, hds⟩ := isIdentifier_iff.mp h
  rw [String.toList_ofList] at hlonger
  subst hlonger
  rw [List.cons_prefix_cons] at hfront
  obtain ⟨rfl, hfront⟩ := hfront
  exact ⟨hletter, Nat.succ_le_succ (length_le_takeWhile hds hfront)⟩

/-- Of two symbols one of which begins the other the longer one is read. -/
theorem length_le_of_symbol {s : Symbol} (hfront : s.text.toList <+: c :: cs) :
    s.text.toList.length ≤ (lexeme c cs).2 + 1 := by
  obtain ⟨rest, hrest⟩ := hfront
  cases s
  case notEqual | greaterEqual | lessEqual =>
    cases hrest
    exact Nat.le_refl 2
  all_goals exact Nat.le_add_left 1 _

/-- No rule matches more characters of a text than are counted to what is read at its front. -/
theorem TokenRule.length_le_lexeme {rule : TokenRule} (h : rule.Matches longer)
    (hfront : longer <+: c :: cs) : longer.length ≤ (lexeme c cs).2 + 1 := by
  cases rule with
  | number =>
    obtain ⟨hdigit, hle⟩ := length_le_numberLexeme h hfront
    rwa [lexeme, if_pos hdigit]
  | text =>
    obtain ⟨rfl, hle⟩ := length_le_textLexeme h hfront
    exact hle
  | name =>
    obtain ⟨hletter, hle⟩ := length_le_nameLexeme h hfront
    rwa [lexeme, if_neg (by simp [Unicode.isDigit_of_isLetter hletter]),
      if_neg (Unicode.ne_quote_of_isLetter hletter), if_pos hletter]
  | symbol s =>
    obtain rfl : longer = s.text.toList := h
    exact length_le_of_symbol hfront

/-- **No rule matches more** of a text than what is read at its front. -/
theorem TokenRule.length_le_word {rule : TokenRule} (h : rule.Matches longer)
    (hfront : longer <+: c :: cs) : longer.length ≤ (Item.word c cs).length := by
  have hle := length_le_lexeme h hfront
  have htext := hfront.length_le
  rw [List.length_cons] at htext
  rw [Item.word, List.length_cons, List.length_take]
  omega

end Longest

end SheetFormula
