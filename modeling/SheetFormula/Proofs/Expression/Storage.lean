import SheetFormula.Proofs.Expression.RoundTrip

/-!
# What is stored can be loaded

An expression is stored as its canonical text and loaded under the default ceiling. What has been
parsed under this ceiling or a lower one is loaded as it was. Higher ceilings admit expressions in
which more rules must nest, and what is stored of these is refused: no text of such an expression
can be loaded (`Expression.load_store_of_parse`). It is never loaded as another expression.
-/

namespace SheetFormula

namespace Formula

/-- A call of `F` with one argument, which is such a call again, `n` times around a name. -/
def nestedCalls : Nat → Formula
  | 0 => .reference "A"
  | n + 1 => .call "F" [nestedCalls n]

theorem spellable_nestedCalls (n : Nat) : (nestedCalls n).Spellable := by
  induction n with
  | zero =>
    have hname : IsIdentifier "A" := by decide +kernel
    exact hname
  | succ n ih =>
    have hname : IsIdentifier "F" := by decide +kernel
    exact ⟨hname, rfl, ih, trivial⟩

/-- Every call lets four rules nest, from the expression that is its argument to a term. -/
theorem levels_nestedCalls (n : Nat) : (nestedCalls n).levels = 4 * n + 1 := by
  induction n with
  | zero => rfl
  | succ n ih =>
    have htight : (nestedCalls n).tightness = 3 := by cases n <;> rfl
    have hdeepest : deepest [nestedCalls n] = (nestedCalls n).levels + 3 := by
      rw [deepest, deepest, htight, Nat.max_zero]
      rfl
    rw [nestedCalls, levels, hdeepest, ih]
    omega

theorem levelsAt_nestedCalls (n : Nat) : (nestedCalls n).levelsAt 0 = 4 * n + 5 := by
  have htight : (nestedCalls n).tightness = 3 := by cases n <;> rfl
  have hterm : (nestedCalls n).levelsAt 0 = (nestedCalls n).levels + 4 := by
    rw [levelsAt, htight]
    rfl
  rw [hterm, levels_nestedCalls]

end Formula

namespace Expression

variable {m : Nat} {text : String} {e : Expression}

theorem eq_of_parse_plain (hhead : text.toList.head? ≠ some '=') (h : parse text m = .ok e) :
    e = ⟨.literal (.text text)⟩ := by
  have hne : text ≠ "" := by
    rintro rfl
    cases h
  cases (parse_plain hne hhead).symm.trans h
  rfl

/-- What is parsed can be spelled. -/
theorem spellable_of_parse (h : parse text m = .ok e) : e.root.Spellable := by
  by_cases hhead : text.toList.head? = some '='
  · obtain ⟨source, hsource⟩ := exists_source_of_parse hhead h
    exact Formula.spellable_of_parse hsource
  · rw [eq_of_parse_plain hhead h]
    trivial

/-- A text without an equals sign in front lets few rules nest. -/
theorem levelsAt_of_plain (hhead : text.toList.head? ≠ some '=') (h : parse text m = .ok e) :
    e.root.levelsAt 0 = 5 := by
  rw [eq_of_parse_plain hhead h]
  rfl

/-- A ceiling that admits a text with an equals sign in front is above the rules that must nest. -/
theorem levelsAt_lt_of_parse (hhead : text.toList.head? = some '=') (h : parse text m = .ok e) :
    e.root.levelsAt 0 < m := by
  rcases parse_encode_cases (spellable_of_parse h) m with ⟨hm, -⟩ | ⟨-, err, hrefused, -⟩
  · exact hm
  · cases (parse_encode_formula hhead h).symm.trans hrefused

/-- What is parsed under a ceiling not above the default one, or from a text without an equals sign
in front, stays below the default ceiling. -/
theorem levelsAt_lt_defaultCeiling (h : parse text m = .ok e)
    (hlow : m ≤ defaultCeiling ∨ text.toList.head? ≠ some '=') :
    e.root.levelsAt 0 < defaultCeiling := by
  by_cases hhead : text.toList.head? = some '='
  · have hm : m ≤ defaultCeiling := hlow.resolve_right (not_not_intro hhead)
    exact Nat.lt_of_lt_of_le (levelsAt_lt_of_parse hhead h) hm
  · rw [levelsAt_of_plain hhead h]
    decide

/-- **What is stored is loaded as it was**, if it was parsed under a ceiling not above the default
one, or from a text without an equals sign in front. What was parsed under a higher ceiling is
loaded as it was where fewer rules than the default ceiling must nest in it, and refused for its
depth otherwise. So what cannot be loaded from what is stored cannot be loaded at all. -/
theorem load_store_of_parse (text : String) (m : Nat) (e : Expression)
    (h : parse text m = .ok e) :
    (m ≤ defaultCeiling ∨ text.toList.head? ≠ some '=' → load e.store = .ok e) ∧
    (e.root.levelsAt 0 < defaultCeiling → load e.store = .ok e) ∧
    (defaultCeiling ≤ e.root.levelsAt 0 →
      (∃ err, load e.store = .error err ∧ err.fault = .maximumDepth) ∧
        ∀ stored, load stored ≠ .ok e) := by
  rcases parse_encode_cases (spellable_of_parse h) defaultCeiling with
    ⟨hlt, hloaded⟩ | ⟨hle, hrefused⟩
  · exact ⟨fun _ => hloaded, fun _ => hloaded, fun hle => absurd hle (Nat.not_le_of_lt hlt)⟩
  · have hnotLow : ¬ e.root.levelsAt 0 < defaultCeiling := Nat.not_lt_of_le hle
    refine ⟨fun hlow => absurd (levelsAt_lt_defaultCeiling h hlow) hnotLow,
      fun hlt => absurd hlt hnotLow, fun _ => ⟨hrefused, fun stored hstored => ?_⟩⟩
    exact hnotLow (levelsAt_lt_defaultCeiling hstored (.inl (Nat.le_refl _)))

theorem parse_encode_nestedCalls (n m : Nat) :
    let e : Expression := ⟨.nestedCalls n⟩
    (4 * n + 5 < m ∧ parse e.encode m = .ok e) ∨
      (m ≤ 4 * n + 5 ∧ ∃ err, parse e.encode m = .error err ∧ err.fault = .maximumDepth) := by
  intro e
  have hlevels : e.root.levelsAt 0 = 4 * n + 5 := Formula.levelsAt_nestedCalls n
  rw [← hlevels]
  exact parse_encode_cases (Formula.spellable_nestedCalls n) m

/-- Calls that nest 254 times are loaded although they were parsed under a ceiling of 2000, and
calls that nest 255 times are refused. -/
theorem load_store_of_parse_nestedCalls :
    (parse (encode ⟨.nestedCalls 254⟩) 2000 = .ok ⟨.nestedCalls 254⟩ ∧
      load (store ⟨.nestedCalls 254⟩) = .ok ⟨.nestedCalls 254⟩) ∧
    (parse (encode ⟨.nestedCalls 255⟩) 2000 = .ok ⟨.nestedCalls 255⟩ ∧
      ∃ err, load (store ⟨.nestedCalls 255⟩) = .error err ∧ err.fault = .maximumDepth) := by
  have hloaded := ((parse_encode_nestedCalls 254 2000).resolve_right fun h => by omega).2
  have hrefused := ((parse_encode_nestedCalls 255 2000).resolve_right fun h => by omega).2
  have hlt : (Formula.nestedCalls 254).levelsAt 0 < defaultCeiling := by
    rw [Formula.levelsAt_nestedCalls]
    decide
  have hle : defaultCeiling ≤ (Formula.nestedCalls 255).levelsAt 0 := by
    rw [Formula.levelsAt_nestedCalls]
    decide
  exact ⟨⟨hloaded, (load_store_of_parse _ _ _ hloaded).2.1 hlt⟩, hrefused,
    ((load_store_of_parse _ _ _ hrefused).2.2 hle).1⟩

/-- **Storing may lead over the default ceiling**: calls that nest 255 times are parsed under a
ceiling of 2000 and cannot be loaded from what is stored. -/
theorem not_loaded_nestedCalls :
    ¬ ∀ (text : String) (m : Nat) (e : Expression), parse text m = .ok e →
      load e.store = .ok e := by
  intro h
  have hparse := ((parse_encode_nestedCalls 255 2000).resolve_right fun h => by omega).2
  have hload : defaultCeiling ≤ 4 * 255 + 5 := by decide
  obtain ⟨-, err, hrefused, -⟩ :=
    (parse_encode_nestedCalls 255 defaultCeiling).resolve_left fun h => by omega
  cases (h _ 2000 _ hparse).symm.trans hrefused

end Expression

end SheetFormula
