import SheetFormula.Proofs.Text.Spelling

/-!
# Quoted text is read back

Whatever class of characters a writer escapes by code point, it writes one of the spellings of the
text (`Text.spelledBy_quotedBody`). So the body of the quoted text ends where the writer put the
closing quote, and it spells the text that was written (`Text.bodyLength?_quotedBody`,
`Text.unescape?_quotedBody`).
-/

namespace SheetFormula

namespace Text

/-! ### Hexadecimal digits -/

/-- What holds of the characters of single hexadecimal digits holds of all digits of a number. -/
theorem forall_mem_toDigits_hex {good : Char → Prop} (h : ∀ d < 16, good (Nat.digitChar d))
    (n : Nat) : ∀ c ∈ Nat.toDigits 16 n, good c := by
  induction n using Nat.strongRecOn with
  | ind n ih =>
    rw [Nat.toDigits_eq_if (by decide)]
    split
    · next hn => simpa using h n hn
    · next hn =>
      intro c hc
      rcases List.mem_append.mp hc with hc | hc
      · exact ih (n / 16) (Nat.div_lt_self (by omega) (by decide)) c hc
      · rw [List.mem_singleton.mp hc]
        exact h _ (Nat.mod_lt n (by decide))

theorem hexValue?_digitChar : ∀ d < 16, hexValue? (Nat.digitChar d) = some d := by decide

theorem hexFrom_append {code value : Nat} {cs : List Char} (cs' : List Char)
    (h : hexFrom code cs = some value) : hexFrom code (cs ++ cs') = hexFrom value cs' := by
  induction cs generalizing code with
  | nil =>
    cases h
    rfl
  | cons c cs ih =>
    rw [hexFrom] at h
    obtain ⟨digit, hdigit, hrest⟩ := Option.bind_eq_some_iff.mp h
    rw [List.cons_append, hexFrom, hdigit]
    exact ih hrest

/-- Hexadecimal digits are read as the number that they were written for. -/
theorem hexFrom_toDigits (n : Nat) : hexFrom 0 (Nat.toDigits 16 n) = some n := by
  induction n using Nat.strongRecOn with
  | ind n ih =>
    rw [Nat.toDigits_eq_if (by decide)]
    split
    · next hn =>
      rw [hexFrom, hexValue?_digitChar n hn]
      simp [hexFrom]
    · next hn =>
      rw [hexFrom_append _ (ih (n / 16) (Nat.div_lt_self (by omega) (by decide))), hexFrom,
        hexValue?_digitChar _ (Nat.mod_lt n (by decide))]
      simp only [Option.bind_eq_bind, Option.bind_some, hexFrom, Option.some.injEq]
      omega

theorem charOfHex?_toDigits (c : Char) : charOfHex? (Nat.toDigits 16 c.toNat) = some c := by
  rw [charOfHex?, hexFrom_toDigits, Option.bind_some]
  exact dif_pos c.valid

theorem length_toDigits_hex_le (c : Char) : (Nat.toDigits 16 c.toNat).length ≤ 6 := by
  rw [Nat.length_toDigits_le_iff (by decide) (by decide)]
  have hc : c.toNat.isValidChar := c.valid
  unfold Nat.isValidChar at hc
  omega

/-! ### The whole body -/

section Body

variable (hidden : Char → Bool) (cs : List Char)

/-- What a writer writes for a character is one of its spellings. -/
theorem spelling_spelled (c : Char) : Spelling c (spelled hidden c) := by
  unfold spelled
  split
  case h_7 _ quote backslash _ _ _ _ =>
    split
    · exact .braced Nat.length_toDigits_pos (length_toDigits_hex_le c)
        (charOfHex?_eq_some_iff.mp (charOfHex?_toDigits c))
    · exact .plain quote backslash
  all_goals exact .short (by decide)

/-- **What a writer writes spells the text**, whatever it writes by code point. -/
theorem spelledBy_quotedBody :
    SpelledBy cs (cs.flatMap (spelled hidden)) := by
  induction cs with
  | nil => exact spelledBy_nil
  | cons c cs ih => exact .cons (spelling_spelled hidden c) ih

/-- **The body ends where it was closed.** -/
theorem bodyLength?_quotedBody (rest : List Char) :
    bodyLength? (cs.flatMap (spelled hidden) ++ '"' :: rest) =
      some (cs.flatMap (spelled hidden)).length :=
  (spelledBy_quotedBody hidden cs).isBody.bodyLength?_append rest

/-- **The body spells the text that was written.** -/
theorem unescape?_quotedBody : unescape? (cs.flatMap (spelled hidden)) = some cs :=
  (spelledBy_quotedBody hidden cs).unescape?_eq

end Body

end Text

end SheetFormula
