import SheetFormula.Proofs.Text.Quoted
import SheetFormula.Proofs.Token.Items

/-!
# Literals of texts

A quote begins a token, a fault in an escape or a text that is not closed, according to what stands
behind it (`Item.head?_eq_iff`). A token with a text is read just where a body that spells the text
stands between quotes, whatever spellings it is made of (`Item.head?_listFrom_quote`).
-/

namespace SheetFormula

namespace Item

variable {p e : Nat} {r : Reading} {s : String} {cs body : List Char}

/-! ### What is read from a quote on -/

/-- Whether a quote **closes** a text behind some body. -/
def Closed (cs : List Char) : Prop := ∃ body rest, cs = body ++ '"' :: rest ∧ Text.IsBody body

/-- What is read of a text with a body that a quote closes. -/
def closedReading (body : List Char) : Reading :=
  match Text.unescape? body with
  | some s => .token (.text (String.ofList s))
  | none => .fault .invalidEscape

theorem textLexeme_of_isBody (h : Text.IsBody body) (rest : List Char) :
    textLexeme (body ++ '"' :: rest) = (closedReading body, body.length + 1) := by
  rw [textLexeme, h.bodyLength?_append rest, closedReading]
  dsimp only
  rw [List.take_left]
  cases Text.unescape? body <;> rfl

theorem textLexeme_of_not_closed (h : ¬ Closed cs) :
    textLexeme cs = (.fault .unterminatedText, cs.length) := by
  unfold textLexeme
  split
  · rfl
  · next n hn =>
    obtain ⟨hbody, hend⟩ := Text.isBody_of_bodyLength? hn
    refine absurd ⟨cs.take n, cs.drop (n + 1), ?_, hbody⟩ h
    rw [List.append_cons, ← hend, List.take_append_drop]

theorem head?_listFrom_quote_eq (p : Nat) (cs : List Char) :
    (listFrom 0 p ('"' :: cs)).head? =
      some ⟨(textLexeme cs).1, p, p + Text.byteLength ('"' :: cs.take (textLexeme cs).2)⟩ := by
  rw [listFrom_lexeme (by decide)]
  rfl

/-- **What a quote begins** is read up to the quote that closes it, or it is not closed and reaches
the end of the text. -/
theorem head?_eq_iff : (listFrom 0 p ('"' :: cs)).head? = some ⟨r, p, e⟩ ↔
    (∃ body rest, cs = body ++ '"' :: rest ∧ Text.IsBody body ∧ closedReading body = r ∧
      e = p + Text.byteLength ('"' :: (body ++ ['"']))) ∨
    ¬ Closed cs ∧ r = .fault .unterminatedText ∧ e = p + Text.byteLength ('"' :: cs) := by
  have hlongest : ∀ body rest, cs = body ++ '"' :: rest → Text.IsBody body →
      (listFrom 0 p ('"' :: cs)).head? =
        some ⟨closedReading body, p, p + Text.byteLength ('"' :: (body ++ ['"']))⟩ := by
    rintro body rest rfl hbody
    rw [head?_listFrom_quote_eq, textLexeme_of_isBody hbody]
    dsimp only
    rw [List.append_cons, List.take_left' (by simp)]
  constructor
  · intro h
    by_cases hclosed : Closed cs
    · obtain ⟨body, rest, hcs, hbody⟩ := hclosed
      cases (hlongest body rest hcs hbody).symm.trans h
      exact .inl ⟨body, rest, hcs, hbody, rfl, rfl⟩
    · rw [head?_listFrom_quote_eq, textLexeme_of_not_closed hclosed, List.take_length] at h
      cases h
      exact .inr ⟨hclosed, rfl, rfl⟩
  · rintro (⟨body, rest, hcs, hbody, rfl, rfl⟩ | ⟨hopen, rfl, rfl⟩)
    · exact hlongest body rest hcs hbody
    · rw [head?_listFrom_quote_eq, textLexeme_of_not_closed hopen, List.take_length]

/-! ### The three outcomes -/

theorem closedReading_eq_text_iff (h : Text.IsBody body) :
    closedReading body = .token (.text s) ↔ Text.SpelledBy s.toList body := by
  rw [← Text.unescape?_eq_some_iff h, closedReading]
  cases Text.unescape? body with
  | none => simp
  | some cs => simp [← String.toList_inj]

theorem closedReading_eq_invalidEscape_iff (h : Text.IsBody body) :
    closedReading body = .fault .invalidEscape ↔ ∀ cs, ¬ Text.SpelledBy cs body := by
  simp only [← Text.unescape?_eq_some_iff h, closedReading]
  cases Text.unescape? body <;> simp

theorem closedReading_ne_unterminatedText : closedReading body ≠ .fault .unterminatedText := by
  unfold closedReading
  cases Text.unescape? body <;> simp

theorem head?_eq_text_iff :
    (listFrom 0 p ('"' :: cs)).head? = some ⟨.token (.text s), p, e⟩ ↔
      ∃ body rest, cs = body ++ '"' :: rest ∧ Text.SpelledBy s.toList body ∧
        e = p + Text.byteLength ('"' :: (body ++ ['"'])) := by
  rw [head?_eq_iff]
  constructor
  · rintro (⟨body, rest, hcs, hbody, hread, he⟩ | ⟨-, hfault, -⟩)
    · exact ⟨body, rest, hcs, (closedReading_eq_text_iff hbody).mp hread, he⟩
    · cases hfault
  · rintro ⟨body, rest, hcs, hspelled, he⟩
    have hbody := hspelled.isBody
    exact .inl ⟨body, rest, hcs, hbody, (closedReading_eq_text_iff hbody).mpr hspelled, he⟩

theorem head?_eq_unterminatedText_iff :
    (listFrom 0 p ('"' :: cs)).head? = some ⟨.fault .unterminatedText, p, e⟩ ↔
      (¬ ∃ body rest, cs = body ++ '"' :: rest ∧ Text.IsBody body) ∧
        e = p + Text.byteLength ('"' :: cs) := by
  rw [head?_eq_iff]
  constructor
  · rintro (⟨_, _, _, _, hread, _⟩ | ⟨hopen, -, he⟩)
    · exact absurd hread closedReading_ne_unterminatedText
    · exact ⟨hopen, he⟩
  · rintro ⟨hopen, he⟩
    exact .inr ⟨hopen, rfl, he⟩

theorem head?_eq_invalidEscape_iff :
    (listFrom 0 p ('"' :: cs)).head? = some ⟨.fault .invalidEscape, p, e⟩ ↔
      ∃ body rest, cs = body ++ '"' :: rest ∧ Text.IsBody body ∧
        (∀ s, ¬ Text.SpelledBy s body) ∧ e = p + Text.byteLength ('"' :: (body ++ ['"'])) := by
  rw [head?_eq_iff]
  constructor
  · rintro (⟨body, rest, hcs, hbody, hread, he⟩ | ⟨-, hfault, -⟩)
    · exact ⟨body, rest, hcs, hbody, (closedReading_eq_invalidEscape_iff hbody).mp hread, he⟩
    · cases hfault
  · rintro ⟨body, rest, hcs, hbody, hnone, he⟩
    exact .inl ⟨body, rest, hcs, hbody, (closedReading_eq_invalidEscape_iff hbody).mpr hnone, he⟩

/-- A literal that spells a text is read as the text, and nothing is left of it. -/
theorem lexes_of_spelledBy (h : Text.SpelledBy s.toList body) :
    Lexes (String.ofList ('"' :: (body ++ ['"']))) [.text s] := by
  have hlexeme : textLexeme (body ++ ['"']) = (.token (.text s), body.length + 1) := by
    rw [textLexeme_of_isBody h.isBody, (closedReading_eq_text_iff h.isBody).mpr h]
  have hquote : lexeme '"' (body ++ ['"']) = textLexeme (body ++ ['"']) := rfl
  rw [Lexes, map_reading_list, String.toList_ofList, readings_lexeme (by decide), hquote, hlexeme]
  dsimp only
  rw [List.drop_of_length_le (by simp)]
  rfl

/-- **Literals are what their grammar says.** From a quote on, at any place of a text, a token
with a text is read if and only if the quote, a body that spells the text and a closing quote stand
there; a missing quote is found exactly when no quote behind a body follows, and a wrong escape when
a quote closes a body that spells nothing. The code point of an escape, if it has one, is read from
certain digits, and wherever these stand it does not leave a word of 32 bits on the way. Therefore
every spelling of a text is read as that text, and the quoted text that is written for it is one. -/
theorem head?_listFrom_quote :
    (∀ (p : Nat) (cs : List Char),
      (∀ s e, (listFrom 0 p ('"' :: cs)).head? = some ⟨.token (.text s), p, e⟩ ↔
        ∃ body rest, cs = body ++ '"' :: rest ∧ Text.SpelledBy s.toList body ∧
          e = p + Text.byteLength ('"' :: (body ++ ['"']))) ∧
      (∀ e, (listFrom 0 p ('"' :: cs)).head? = some ⟨.fault .unterminatedText, p, e⟩ ↔
        (¬ ∃ body rest, cs = body ++ '"' :: rest ∧ Text.IsBody body) ∧
          e = p + Text.byteLength ('"' :: cs)) ∧
      (∀ e, (listFrom 0 p ('"' :: cs)).head? = some ⟨.fault .invalidEscape, p, e⟩ ↔
        ∃ body rest, cs = body ++ '"' :: rest ∧ Text.IsBody body ∧
          (∀ s, ¬ Text.SpelledBy s body) ∧ e = p + Text.byteLength ('"' :: (body ++ ['"'])))) ∧
    (∀ escape c taken, Text.escape? escape = some (c, taken) →
      Text.codePointDigits escape = [] ∨
        Text.charOfHex? (Text.codePointDigits escape) = some c) ∧
    (∀ escape before d after code v, Text.codePointDigits escape = before ++ d :: after →
      Text.hexFrom 0 before = some code → Text.hexValue? d = some v → code * 16 + v < 2 ^ 32) ∧
    (∀ (s : String) body, Text.SpelledBy s.toList body →
      Lexes (String.ofList ('"' :: (body ++ ['"']))) [.text s]) ∧
    ∀ s : List Char, ∃ body, Text.quoted s = '"' :: (body ++ ['"']) ∧ Text.SpelledBy s body :=
  ⟨fun _ _ => ⟨fun _ _ => head?_eq_text_iff, fun _ => head?_eq_unterminatedText_iff,
      fun _ => head?_eq_invalidEscape_iff⟩,
    fun _ _ _ => Text.charOfHex?_codePointDigits, fun _ _ _ _ _ _ => Text.codePoint_lt,
    fun _ _ => lexes_of_spelledBy, fun _ => ⟨_, rfl, Text.spelledBy_quotedBody _ _⟩⟩

/-- The letter ä by the number of its code point in braces, and the letter A by two digits. -/
theorem head?_listFrom_quote_escaped :
    Lexes "\"\\u\x7bE4\x7d\\x41\"" [.text "äA"] ∧ 14 * 16 + 4 < 2 ^ 32 ∧
      Text.charOfHex? (Text.codePointDigits "u\x7bE4\x7d".toList) = some 'ä' := by
  obtain ⟨-, hread, hcode, hlexes, -⟩ := head?_listFrom_quote
  have hdigit : ∀ {d v}, Text.hexValue? d = some v → Text.IsHexDigit d v :=
    Text.hexValue?_eq_some_iff.mp
  have hspelled : Text.SpelledBy "äA".toList "\\u\x7bE4\x7d\\x41".toList :=
    .cons (@Text.Spelling.braced 'ä' ['E', '4'] (by decide) (by decide)
      ⟨[14, 4], .cons (hdigit rfl) (.cons (hdigit rfl) .nil), by decide⟩)
      (.cons (@Text.Spelling.fixed 'A' 'x' ['4', '1'] (by decide)
        ⟨[4, 1], .cons (hdigit rfl) (.cons (hdigit rfl) .nil), by decide⟩) Text.spelledBy_nil)
  have hescape : Text.escape? "u\x7bE4\x7d".toList = some ('ä', 5) := by decide +kernel
  exact ⟨hlexes "äA" _ hspelled,
    hcode "u\x7bE4\x7d".toList ['E'] '4' [] 14 4 (by decide) (by decide) (by decide),
    (hread _ _ _ hescape).resolve_left (by decide)⟩

end Item

end SheetFormula
