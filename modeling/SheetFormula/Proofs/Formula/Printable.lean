import SheetFormula.Formula.Canonical
import SheetFormula.Proofs.Formula.SpelledOut

/-!
# Canonical text holds no control characters

Names are made of letters, digits and underscores, numbers of digits and signs, and in quoted texts
control characters are escaped; all that canonical text adds to these is printable. So the canonical
text of a formula stays on the line on which it is printed (`Formula.Writable.printable_text`).
-/

namespace SheetFormula

/-- Whether characters are **printable**: none of them is a control character. -/
def Text.Printable (cs : List Char) : Prop := ∀ c ∈ cs, Unicode.isControl c = false

instance (cs : List Char) : Decidable (Text.Printable cs) :=
  List.decidableBAll _ cs

/-! ### Characters -/

namespace Unicode

variable {c : Char}

theorem isControl_iff : isControl c = true ↔ c.toNat ≤ 0x1F ∨ 0x7F ≤ c.toNat ∧ c.toNat ≤ 0x9F := by
  simp [isControl]

/-- No character that may stand in a name is a control character. -/
theorem isControl_of_isNameChar (h : isNameChar c = true) : isControl c = false := by
  have hcodes : ∀ code < 0xA0, code ≤ 0x1F ∨ 0x7F ≤ code →
      (inRanges letterRanges code || inRanges digitRanges code) = false := by decide +kernel
  by_contra hcontrol
  rw [Bool.not_eq_false, isControl_iff] at hcontrol
  rw [isNameChar, Bool.or_eq_true] at h
  rcases h with h | h
  · have hcode := hcodes c.toNat (by omega) (by omega)
    exact Bool.false_ne_true (hcode.symm.trans h)
  · rw [beq_iff_eq.mp h] at hcontrol
    exact absurd hcontrol (by decide)

theorem isControl_of_isDigit (h : Text.isDigit c = true) : isControl c = false := by
  rw [Text.isDigit, Bool.and_eq_true] at h
  have hzero : '0'.toNat ≤ c.toNat := of_decide_eq_true h.1
  have hnine : c.toNat ≤ '9'.toNat := of_decide_eq_true h.2
  have hdigits : '0'.toNat = 48 ∧ '9'.toNat = 57 := by decide
  by_contra hcontrol
  rw [Bool.not_eq_false, isControl_iff] at hcontrol
  omega

end Unicode

/-! ### Texts -/

namespace Text

variable {c : Char} {cs ds : List Char}

@[simp]
theorem printable_nil : Printable [] := List.forall_mem_nil _

@[simp]
theorem printable_cons : Printable (c :: cs) ↔ Unicode.isControl c = false ∧ Printable cs :=
  List.forall_mem_cons

@[simp]
theorem printable_append : Printable (cs ++ ds) ↔ Printable cs ∧ Printable ds :=
  List.forall_mem_append

theorem printable_of_isDigit (h : ∀ d ∈ cs, isDigit d = true) : Printable cs :=
  fun d hd => Unicode.isControl_of_isDigit (h d hd)

/-- Each character is spelled by printable ones if the control characters are hidden. -/
theorem printable_spelled (c : Char) : Printable (spelled Unicode.isControl c) := by
  unfold spelled
  split
  case h_7 =>
    split
    · have hdigits : Printable (Nat.toDigits 16 c.toNat) :=
        forall_mem_toDigits_hex (by decide) _
      simp only [codeEscape, printable_cons, printable_append]
      exact ⟨rfl, rfl, rfl, hdigits, rfl, printable_nil⟩
    · next hvisible =>
      exact printable_cons.mpr ⟨Bool.eq_false_iff.mpr hvisible, printable_nil⟩
  all_goals decide

/-- **Quoted texts are printable**, whatever they are the texts of. -/
theorem printable_quoted (cs : List Char) : Printable (quoted cs) := by
  have hbody : Printable (cs.flatMap (spelled Unicode.isControl)) := by
    intro d hd
    obtain ⟨c, -, hc⟩ := List.mem_flatMap.mp hd
    exact printable_spelled c d hc
  simp only [quoted, quotedHiding, printable_cons, printable_append]
  exact ⟨rfl, hbody, rfl, printable_nil⟩

end Text

theorem IsIdentifier.printable {name : String} (h : IsIdentifier name) :
    Text.Printable name.toList := by
  obtain ⟨c, cs, hname, hletter, hcs⟩ := isIdentifier_iff.mp h
  have hfirst : isNameChar c = true := by simp [isNameChar, hletter]
  rw [hname, Text.printable_cons]
  exact ⟨Unicode.isControl_of_isNameChar hfirst,
    fun d hd => Unicode.isControl_of_isNameChar (hcs d hd)⟩

/-! ### Symbols, numbers and values -/

open Text

theorem Symbol.printable_text (s : Symbol) : Printable s.text.toList := by
  cases s <;> decide

theorem Binary64.printable_magnitudeText {units : Nat} (h : Representable units) :
    Printable (magnitudeText units) := by
  obtain ⟨whole, fraction, htext, hdigits, -⟩ := exists_magnitudeText_eq h
  obtain ⟨hwhole, hfraction⟩ := List.forall_mem_append.mp hdigits.2
  rw [htext, literal, fractionText, printable_append]
  refine ⟨printable_of_isDigit hwhole, ?_⟩
  split
  · exact printable_nil
  · exact printable_cons.mpr ⟨rfl, printable_of_isDigit hfraction⟩

namespace Formula

theorem printable_numberText (x : Binary64) : Printable (numberText x) := by
  cases x with
  | nan => decide
  | infinite negative => cases negative <;> decide
  | finite negative units hunits =>
    have hmagnitude := Binary64.printable_magnitudeText hunits
    cases negative with
    | false =>
      change Printable (Binary64.text (.finite false units hunits))
      rwa [Binary64.text_finite_false]
    | true =>
      change Printable (Binary64.text (.finite true units hunits))
      rw [Binary64.text_finite_true, printable_cons]
      exact ⟨by decide, hmagnitude⟩

theorem printable_valueText (v : Value) : Printable (valueText v) := by
  cases v with
  | text s => exact printable_quoted s.toList
  | number x => exact printable_numberText x
  | boolean b => cases b <;> decide

/-! ### Formulas -/

variable {cs : List Char} {texts : List (List Char)} {name : String}

theorem printable_grouped (parens : Bool) (h : Printable cs) : Printable (grouped parens cs) := by
  cases parens with
  | false => exact h
  | true =>
    simp only [grouped, if_true, printable_cons, printable_append]
    exact ⟨rfl, h, rfl, printable_nil⟩

theorem printable_listed (h : ∀ cs ∈ texts, Printable cs) : Printable (listed texts) := by
  induction texts with
  | nil => exact printable_nil
  | cons cs more ih =>
    obtain ⟨hcs, hmore⟩ := List.forall_mem_cons.mp h
    cases more with
    | nil => exact hcs
    | cons ds more =>
      simp only [listed, printable_append, printable_cons]
      exact ⟨hcs, rfl, rfl, ih hmore⟩

theorem printable_applied (hname : Printable name.toList) (h : ∀ cs ∈ texts, Printable cs) :
    Printable (applied name texts) := by
  simp only [applied, printable_append, printable_cons]
  exact ⟨hname, rfl, printable_listed h, rfl, printable_nil⟩

mutual

/-- **The canonical text of a formula is printable**: it holds no control character, and no end of a
line among them. -/
theorem Writable.printable_text : (f : Formula) → f.Writable → Printable f.text
  | .literal v, _ => printable_valueText v
  | .reference _, h => IsIdentifier.printable h
  | .call _ arguments, h =>
    printable_applied h.1.printable (AllWritable.printable_texts arguments h.2.2)
  | .negation operand, h =>
    printable_applied (by decide)
      (List.forall_mem_singleton.mpr (Writable.printable_text operand h))
  | .binary op left right, h => by
    have hleft := Writable.printable_text left h.1
    have hright := Writable.printable_text right h.2
    rw [text_binary, printable_append, printable_cons, printable_append, printable_cons]
    exact ⟨printable_grouped _ hleft, rfl, op.symbol.printable_text, rfl,
      printable_grouped _ hright⟩
  | .junction kind operands, h =>
    printable_applied (by cases kind <;> decide) (AllWritable.printable_texts operands h.2)
  | .conditional condition onTrue onFalse, h => by
    refine printable_applied (by decide) ?_
    simp only [List.forall_mem_cons]
    exact ⟨Writable.printable_text condition h.1, Writable.printable_text onTrue h.2.1,
      Writable.printable_text onFalse h.2.2, List.forall_mem_nil _⟩

theorem AllWritable.printable_texts :
    (fs : List Formula) → AllWritable fs → ∀ cs ∈ Formula.texts fs, Printable cs
  | [], _ => List.forall_mem_nil _
  | f :: fs, h => List.forall_mem_cons.mpr
      ⟨Writable.printable_text f h.1, AllWritable.printable_texts fs h.2⟩

end

end Formula

end SheetFormula
