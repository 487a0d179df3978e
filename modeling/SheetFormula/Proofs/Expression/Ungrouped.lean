import SheetFormula.Proofs.Expression.RoundTrip
import SheetFormula.Proofs.Formula.CanonicalTokens

/-!
# The canonical text is the shortest

All texts of a formula ungroup to the tokens of the canonical one. So encoding drops grouping
parentheses and changes nothing else, and no text of the same formula has fewer tokens.
-/

namespace SheetFormula

namespace Formula

variable {m : Nat} {source : String} {f : Formula}

theorem Spellable.lexes_display (h : f.Spellable) : Lexes f.display f.tokens :=
  (Spellable.spells f h).lexes

/-- The tokens of a text ungroup to the canonical tokens of what is parsed. -/
theorem exists_ungroups_of_parse (h : parse m source = .ok f) :
    ∃ ts, Lexes source ts ∧ Ungroups ts f.tokens := by
  obtain ⟨d, hlexes, rfl⟩ := exists_derivation h
  have hungroups := d.ungroups hlexes.spellable
  rw [tokensAt_of_le (Nat.zero_le _)] at hungroups
  exact ⟨d.tokens, hlexes, hungroups⟩

end Formula

namespace Expression

variable {m : Nat} {formula : String} {e : Expression}

theorem encode_eq (e : Expression) : e.encode = "=" ++ e.root.display := by
  refine String.toList_inj.mp ?_
  simp [encode, Formula.display]

/-- What follows the equals sign is parsed as the formula of the expression. -/
theorem parse_append (formula : String) (m : Nat) :
    parse ("=" ++ formula) m = (Formula.parse m formula).map Expression.mk := by
  have htext : ("=" ++ formula).toList = '=' :: formula.toList := by
    rw [String.toList_append]
    rfl
  rw [parse_formula htext, String.ofList_toList]

theorem parse_root_of_parse (h : parse ("=" ++ formula) m = .ok e) :
    Formula.parse m formula = .ok e.root := by
  rw [parse_append] at h
  exact eq_ok_root_of_map h

/-- **Encoding drops grouping parentheses and nothing else, and all that it can.** The tokens of a
text with an equals sign in front ungroup to those of its canonical text, and no text of the same
expression has fewer tokens than this one. -/
theorem encode_ungroups (h : parse ("=" ++ formula) m = .ok e) :
    e.encode = "=" ++ e.root.display ∧
    ∃ ts us, Lexes formula ts ∧ Lexes e.root.display us ∧ Ungroups ts us ∧
      ∀ formula' m', parse ("=" ++ formula') m' = .ok e →
        us.length ≤ (Item.tokens formula').length := by
  have hroot := parse_root_of_parse h
  obtain ⟨ts, hlexes, hungroups⟩ := Formula.exists_ungroups_of_parse hroot
  refine ⟨e.encode_eq, ts, e.root.tokens, hlexes,
    (Formula.spellable_of_parse hroot).lexes_display, hungroups, fun formula' m' h' => ?_⟩
  obtain ⟨ts', hlexes', hungroups'⟩ := Formula.exists_ungroups_of_parse (parse_root_of_parse h')
  rw [hlexes'.tokens_eq]
  exact hungroups'.length_le

/-- The parentheses around the reference and one of the two pairs around the sum are dropped; the
other pair is needed. -/
theorem encode_ungroups_product :
    let e : Expression := ⟨.binary (.arithmetic .mul) (.reference "A")
      (.binary (.arithmetic .add) (.reference "B") (.reference "C"))⟩
    parse ("=" ++ "(A)*((B+C))") 30 = .ok e ∧ e.encode = "=" ++ "A * (B + C)" ∧
      Ungroups (Item.tokens "(A)*((B+C))") (Item.tokens "A * (B + C)") := by
  intro e
  let expression (d : Derivation .term) : Derivation .expression := .operand (.operand (.operand d))
  let sum : Derivation .expression :=
    .operand (.binary (.arithmetic .add) rfl (.operand (.reference "B"))
      (.operand (.operand (.reference "C"))))
  let d : Derivation .program := .program (.operand (.operand
    (.binary (.arithmetic .mul) rfl (.group (expression (.reference "A")))
      (.operand (.group (expression (.group sum)))))))
  have hformula : Formula.parse 30 "(A)*((B+C))" = .ok e.root :=
    Formula.parse_eq_ok_iff.mpr ⟨d, by decide +kernel, rfl, by decide⟩
  have hparse : parse ("=" ++ "(A)*((B+C))") 30 = .ok e := by
    rw [parse_append, hformula]
    rfl
  have hdisplay : e.root.display = "A * (B + C)" := by decide +kernel
  obtain ⟨hencode, ts, us, hts, hus, hungroups, -⟩ := encode_ungroups hparse
  rw [hdisplay] at hencode hus
  rw [hts.tokens_eq, hus.tokens_eq]
  exact ⟨hparse, hencode, hungroups⟩

end Expression

end SheetFormula
