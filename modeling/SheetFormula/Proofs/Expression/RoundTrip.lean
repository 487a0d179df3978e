import SheetFormula.Expression
import SheetFormula.Proofs.Formula.Canonical
import SheetFormula.Proofs.Parser.Language

/-!
# Canonical text is parsed as what it was written for

The canonical text of a formula that can be spelled has the derivation of
`Formula.Writable.canonical`, so it is parsed as this formula wherever the ceiling admits the rules
that must nest in it (`Formula.Spellable.parse_display`). A ceiling that has admitted some text of a
formula admits the canonical one too, because no derivation nests less deep
(`Formula.parse_display_of_parse`).
-/

namespace SheetFormula

namespace Formula

variable {f : Formula} {m : Nat} {source : String}

/-- The canonical text of a formula lexes to a derivation, which nests as little as any if the
formula can be spelled as it is. -/
theorem Writable.exists_program (h : f.Writable) :
    ∃ d : Derivation .program, d.formula = f.spelledOut ∧ Lexes f.display d.tokens ∧
      (f.Spellable → d.levels = f.levelsAt 0) := by
  obtain ⟨d, hf, hspells, hlevels⟩ := (Writable.canonical f h).ungrouped
  refine ⟨.program d, hf, hspells.lexes, fun hspellable => ?_⟩
  have hsucc : f.levelsAt 0 = f.levelsAt 1 + 1 :=
    levelsAt_eq_succ (by decide) (Nat.succ_ne_zero _).symm
  rw [hsucc]
  exact congrArg (· + 1) (hlevels hspellable)

theorem Spellable.exists_program (h : f.Spellable) :
    ∃ d : Derivation .program,
      d.formula = f ∧ Lexes f.display d.tokens ∧ d.levels = f.levelsAt 0 := by
  obtain ⟨d, hf, hlexes, hlevels⟩ := (Spellable.writable f h).exists_program
  exact ⟨d, hf.trans (Spellable.spelledOut_eq f h), hlexes, hlevels h⟩

/-- **When the canonical text is parsed**: just if the ceiling is above the rules that must nest. -/
theorem Spellable.parse_display (h : f.Spellable) (m : Nat) :
    (f.levelsAt 0 < m ∧ parse m f.display = .ok f) ∨
      (m ≤ f.levelsAt 0 ∧ ∃ e, parse m f.display = .error e ∧ e.fault = .maximumDepth) := by
  obtain ⟨d, rfl, hlexes, hlevels⟩ := h.exists_program
  rw [← hlevels]
  rcases parse_of_lexes (m := m) hlexes with ⟨hparse, hm⟩ | ⟨e, hparse, he, hm⟩
  · exact .inl ⟨hm, hparse⟩
  · exact .inr ⟨hm, e, hparse, he⟩

/-- **Decoding undoes encoding.** The canonical text of a formula that can be spelled is parsed as
this very formula or refused at the ceiling, and it is not refused where the ceiling is well above
four times the number of its tokens. -/
theorem parse_display_eq (f : Formula) (h : f.Spellable) (m : Nat) :
    (parse m f.display = .ok f ∨
      ∃ e, parse m f.display = .error e ∧ e.fault = .maximumDepth) ∧
    (5 + 4 * (Item.tokens f.display).length < m → parse m f.display = .ok f) := by
  refine ⟨(h.parse_display m).imp And.right And.right, fun hm => ?_⟩
  obtain ⟨d, rfl, hlexes, -⟩ := h.exists_program
  rw [hlexes.tokens_eq] at hm
  exact parse_of_length_lt hlexes hm

theorem parse_display_eq_difference :
    let f : Formula := .binary (.arithmetic .sub) (.literal (.number (Binary64.zero true)))
      (.call "F1" [.literal (.text "\"\n")])
    f.Spellable ∧ 5 + 4 * (Item.tokens f.display).length < 34 ∧ parse 34 f.display = .ok f := by
  intro f
  have hspellable : f.Spellable := ⟨rfl, by decide +kernel, rfl, trivial, trivial⟩
  have htokens : 5 + 4 * (Item.tokens f.display).length < 34 := by decide +kernel
  exact ⟨hspellable, htokens, (parse_display_eq f hspellable 34).2 htokens⟩

/-- What is parsed can be spelled. -/
theorem spellable_of_parse (h : parse m source = .ok f) : f.Spellable := by
  obtain ⟨d, hlexes, rfl⟩ := exists_derivation h
  exact d.spellable hlexes.spellable

/-- **A ceiling that admits a text of a formula admits its canonical text.** -/
theorem parse_display_of_parse (h : parse m source = .ok f) : parse m f.display = .ok f := by
  have hspellable := spellable_of_parse h
  obtain ⟨d, -, rfl, hm⟩ := parse_eq_ok_iff.mp h
  have hlevels : d.formula.levelsAt 0 ≤ d.levels := d.levelsAt_le
  rcases hspellable.parse_display m with ⟨-, hparse⟩ | ⟨hrefused, -⟩
  · exact hparse
  · omega

end Formula

namespace Expression

variable {m : Nat} {text : String} {e : Expression}

/-- The canonical text of an expression is parsed as that of its formula. -/
theorem parse_encode (e : Expression) (m : Nat) :
    parse e.encode m = (Formula.parse m e.root.display).map Expression.mk := by
  unfold parse encode
  rw [String.toList_ofList]
  rfl

theorem parse_formula {formula : List Char} (h : text.toList = '=' :: formula) :
    parse text m = (Formula.parse m (String.ofList formula)).map Expression.mk := by
  unfold parse
  rw [h]
  rfl

/-- A text without an equals sign in front stands for itself, whatever the ceiling. -/
theorem parse_plain (hne : text ≠ "") (h : text.toList.head? ≠ some '=') :
    parse text m = .ok ⟨.literal (.text text)⟩ := by
  unfold parse
  split
  · next hnil => exact absurd (String.toList_eq_nil_iff.mp hnil) hne
  · next formula hcons => exact absurd (by rw [hcons]; rfl) h
  · rfl

theorem eq_ok_root_of_map {parsed : Except SyntaxError Formula}
    (h : parsed.map Expression.mk = .ok e) : parsed = .ok e.root := by
  cases parsed with
  | error err => cases h
  | ok f =>
    cases h
    rfl

/-- What follows an equals sign is parsed as a formula. -/
theorem exists_source_of_parse (h : text.toList.head? = some '=') (hparse : parse text m = .ok e) :
    ∃ source, Formula.parse m source = .ok e.root := by
  obtain ⟨formula, hformula⟩ := List.head?_eq_some_iff.mp h
  rw [parse_formula hformula] at hparse
  exact ⟨_, eq_ok_root_of_map hparse⟩

/-- Where a formula was parsed, its canonical text is. -/
theorem parse_encode_formula (h : text.toList.head? = some '=') (hparse : parse text m = .ok e) :
    parse e.encode m = .ok e := by
  obtain ⟨source, hsource⟩ := exists_source_of_parse h hparse
  rw [parse_encode, Formula.parse_display_of_parse hsource]
  rfl

/-- The canonical text of an expression that can be spelled is parsed as this expression, just if
the ceiling is above the rules that must nest. -/
theorem parse_encode_cases (h : e.root.Spellable) (m : Nat) :
    (e.root.levelsAt 0 < m ∧ parse e.encode m = .ok e) ∨
      (m ≤ e.root.levelsAt 0 ∧
        ∃ err, parse e.encode m = .error err ∧ err.fault = .maximumDepth) := by
  rw [parse_encode]
  rcases h.parse_display m with ⟨hm, hparse⟩ | ⟨hm, err, hparse, herr⟩
  · refine .inl ⟨hm, ?_⟩
    rw [hparse]
    rfl
  · refine .inr ⟨hm, err, ?_, herr⟩
    rw [hparse]
    rfl

/-- The canonical text of a plain text is a quoted text, in which five rules nest. -/
theorem parse_encode_plain (s : String) (m : Nat) :
    let e : Expression := ⟨.literal (.text s)⟩
    (6 ≤ m ∧ parse e.encode m = .ok e) ∨
      (m < 6 ∧ ∃ err, parse e.encode m = .error err ∧ err.fault = .maximumDepth) := by
  intro e
  have hspellable : e.root.Spellable := trivial
  exact (parse_encode_cases hspellable m).imp (And.imp_left Nat.succ_le_of_lt)
    (And.imp_left Nat.lt_succ_of_le)

/-- **What has been admitted is admitted in canonical form.** Under a ceiling that admits a text
with an equals sign in front, its canonical text is parsed as the same expression. A text without
one is admitted under every ceiling, and its canonical text from a ceiling of six on, below which it
is refused. So parsing and encoding leaves what it yields as it is, but for texts without an equals
sign under the ceilings below six. -/
theorem parse_encode_of_parse (text : String) (m : Nat) :
    (text.toList.head? = some '=' → ∀ e, parse text m = .ok e → parse e.encode m = .ok e) ∧
    (text ≠ "" → text.toList.head? ≠ some '=' → ∃ e, parse text m = .ok e ∧
      (6 ≤ m → parse e.encode m = .ok e) ∧
      (m < 6 → ∃ err, parse e.encode m = .error err ∧ err.fault = .maximumDepth)) ∧
    (text.toList.head? = some '=' ∨ 6 ≤ m → ∀ s, (parse text m).map encode = .ok s →
      (parse s m).map encode = .ok s) := by
  have hplain : text ≠ "" → text.toList.head? ≠ some '=' → ∃ e, parse text m = .ok e ∧
      (6 ≤ m → parse e.encode m = .ok e) ∧
      (m < 6 → ∃ err, parse e.encode m = .error err ∧ err.fault = .maximumDepth) := by
    intro hne hhead
    refine ⟨_, parse_plain hne hhead, ?_⟩
    rcases parse_encode_plain text m with ⟨hm, hparse⟩ | ⟨hm, hrefused⟩
    · exact ⟨fun _ => hparse, fun hlt => absurd hm (Nat.not_le_of_lt hlt)⟩
    · exact ⟨fun hle => absurd hle (Nat.not_le_of_lt hm), fun _ => hrefused⟩
  refine ⟨fun hhead e hparse => parse_encode_formula hhead hparse, hplain, ?_⟩
  intro hadmitted s hs
  -- what has been encoded is what was parsed, so it is enough that this is parsed again
  cases hparse : parse text m with
  | error err =>
    rw [hparse] at hs
    cases hs
  | ok e =>
    rw [hparse] at hs
    cases hs
    have hagain : parse e.encode m = .ok e := by
      by_cases hhead : text.toList.head? = some '='
      · exact parse_encode_formula hhead hparse
      · have hne : text ≠ "" := by
          rintro rfl
          cases hparse
        obtain ⟨e', hparse', hencode, -⟩ := hplain hne hhead
        cases hparse.symm.trans hparse'
        exact hencode (hadmitted.resolve_left hhead)
    rw [hagain]
    rfl

theorem parse_encode_of_parse_reference :
    parse "=(A)" 10 = .ok ⟨.reference "A"⟩ ∧ parse "=A" 10 = .ok ⟨.reference "A"⟩ ∧
      parse "=\"A\"" 6 = .ok ⟨.literal (.text "A")⟩ ∧
      ∃ err, parse "=\"A\"" 5 = .error err ∧ err.fault = .maximumDepth := by
  let term (d : Derivation .term) : Derivation .expression := .operand (.operand (.operand d))
  let d : Derivation .program := .program (term (.group (term (.reference "A"))))
  have hformula : Formula.parse 10 "(A)" = .ok (.reference "A") :=
    Formula.parse_eq_ok_iff.mpr ⟨d, by decide +kernel, rfl, by decide⟩
  have hparse : parse "=(A)" 10 = .ok ⟨.reference "A"⟩ := by
    have htext : "=(A)".toList = '=' :: ['(', 'A', ')'] := rfl
    rw [parse_formula htext]
    exact congrArg (Except.map Expression.mk) hformula
  have hagain := (parse_encode_of_parse "=(A)" 10).1 rfl _ hparse
  obtain ⟨e, he, hsix, -⟩ := (parse_encode_of_parse "A" 6).2.1 (by decide) (by decide)
  obtain ⟨e', he', -, hfive⟩ := (parse_encode_of_parse "A" 5).2.1 (by decide) (by decide)
  cases he
  cases he'
  exact ⟨hparse, hagain, hsix (by decide), hfive (by decide)⟩

/-- **Encoding may lead over a low ceiling**: a text that stands for itself needs no rule, but the
quoted text that it is encoded as does. -/
theorem not_recoded_below_six :
    ¬ ∀ (text : String) (m : Nat) (s : String), (parse text m).map encode = .ok s →
      (parse s m).map encode = .ok s := by
  intro h
  have hagain := h "A" 5 "=\"A\"" rfl
  rcases parse_encode_plain "A" 5 with ⟨hm, -⟩ | ⟨-, err, hrefused, -⟩
  · exact absurd hm (by decide)
  · cases (congrArg (Except.map encode) hrefused).symm.trans hagain

end Expression

end SheetFormula
