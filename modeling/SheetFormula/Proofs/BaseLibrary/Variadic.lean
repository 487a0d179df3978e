import Mathlib.Data.List.Forall2
import SheetFormula.Proofs.BaseLibrary.Repetition

/-!
# Functions of any number of arguments

`JOIN` and `CHAR` look at their arguments twice. First they check the kinds of all of them, then
they make their text of those that have the kind. So no argument is left out, and an argument that
has not the kind is reported as the first such one (`BaseLibrary.NamesFirstFault`): the check goes
through all arguments in order, and a check of a required argument comes before.

What is made of two lists of arguments one behind the other is made up of what is made of each
(`BaseLibrary.variadic_laws`).
-/

namespace SheetFormula

/-! ### Arguments at fault -/

namespace Call

/-- What is wrong with the argument at an index, if something is: it is missing, though one of the
first `required`, or has not the kind that is needed. -/
def faultAt? (kind : Kind) (required : Nat) (values : List Value) (index : Nat) :
    Option CallError :=
  match values[index]? with
  | none => if index < required then some (.missingArgument index) else none
  | some v => if v.kind = kind then none else some (.wrongKind index ⟨kind, v.kind⟩)

/-- Whether an error is what is wrong with the **first** argument at **fault**. -/
def FirstFault (kind : Kind) (required : Nat) (values : List Value) (e : CallError) : Prop :=
  ∃ i, faultAt? kind required values i = some e ∧
    ∀ j < i, faultAt? kind required values j = none

variable {kind : Kind} {required : Nat} {values before rest : List Value} {e e' : CallError}
  {v : Value}

theorem FirstFault.unique (h : FirstFault kind required values e)
    (h' : FirstFault kind required values e') : e = e' := by
  obtain ⟨i, hi, hbefore⟩ := h
  obtain ⟨j, hj, hbefore'⟩ := h'
  rcases Nat.lt_trichotomy i j with hlt | rfl | hlt
  · rw [hbefore' i hlt] at hi
    cases hi
  · exact Option.some.inj (hi.symm.trans hj)
  · rw [hbefore j hlt] at hj
    cases hj

theorem faultAt?_append_cons (kind : Kind) (required : Nat) (before : List Value) (v : Value)
    (rest : List Value) :
    faultAt? kind required (before ++ v :: rest) before.length =
      if v.kind = kind then none else some (.wrongKind before.length ⟨kind, v.kind⟩) := by
  rw [faultAt?, List.getElem?_append_right (Nat.le_refl _), Nat.sub_self, List.getElem?_cons_zero]

/-- The check of kinds goes on where no argument is at fault, and **ends at the first one that
is**. -/
theorem expectKind_cases (hrequired : required ≤ before.length)
    (hbefore : ∀ i < before.length, faultAt? kind required (before ++ rest) i = none) :
    (expectKind kind before.length rest = .ok () ∧
      ∀ i, faultAt? kind required (before ++ rest) i = none) ∨
    ∃ e, expectKind kind before.length rest = .error e ∧
      FirstFault kind required (before ++ rest) e := by
  induction rest generalizing before with
  | nil =>
    refine .inl ⟨rfl, fun i => ?_⟩
    rcases Nat.lt_or_ge i before.length with hi | hi
    · exact hbefore i hi
    · rw [List.append_nil, faultAt?, List.getElem?_eq_none hi]
      exact if_neg (by omega)
  | cons v rest ih =>
    have hv := faultAt?_append_cons kind required before v rest
    by_cases hkind : v.kind = kind
    · rw [if_pos hkind] at hv
      have hlength : (before ++ [v]).length = before.length + 1 := List.length_append
      have hsplit : before ++ v :: rest = (before ++ [v]) ++ rest := List.append_cons ..
      rw [expectKind, if_pos hkind, hsplit, ← hlength]
      refine ih (by omega) fun i hi => ?_
      rw [← hsplit]
      rcases Nat.lt_or_eq_of_le (Nat.le_of_lt_succ (hlength ▸ hi)) with hi | rfl
      · exact hbefore i hi
      · exact hv
    · rw [if_neg hkind] at hv
      refine .inr ⟨_, ?_, before.length, hv, hbefore⟩
      rw [expectKind, if_neg hkind]

end Call

namespace BaseLibrary

open Call

variable {c : Call} {kind : Kind} {values : List Value}

/-- A base function whose arguments all have one kind **names the first fault** among them: it
refuses them just if there is one, and for that one. -/
def NamesFirstFault (f : Call → Computation Value) (kind : Kind) (required : Nat) (c : Call) :
    Prop :=
  ∀ values e, f (c.on values) = .error e ↔
    ∃ k, e = .refused k ∧ FirstFault kind required values k

theorem NamesFirstFault.of_cases {f : Call → Computation Value} {required : Nat}
    (h : ∀ values,
      ((∃ v, f (c.on values) = .ok v) ∧ ∀ i, faultAt? kind required values i = none) ∨
        ∃ k, f (c.on values) = .error (.refused k) ∧ FirstFault kind required values k) :
    NamesFirstFault f kind required c := by
  intro values e
  rcases h values with ⟨⟨v, hv⟩, hnone⟩ | ⟨k, hk, hfirst⟩
  · rw [hv]
    refine iff_of_false (fun he => by cases he) ?_
    rintro ⟨k, -, i, hi, -⟩
    rw [hnone i] at hi
    cases hi
  · rw [hk]
    constructor
    · intro he
      cases he
      exact ⟨k, rfl, hfirst⟩
    · rintro ⟨k', rfl, hfirst'⟩
      rw [hfirst.unique hfirst']

/-! ### Arguments of the right kind -/

/-- Arguments that are **texts**. -/
def texts (xs : List String) : List Value := xs.map .text

/-- Arguments that are **numbers**. -/
def numbers (xs : List Binary64) : List Value := xs.map .number

/-- No text is left out of texts. -/
theorem filterMap_asText_texts (xs : List String) :
    ((texts xs).filterMap fun v => v.asText.toOption) = xs := by
  rw [texts, List.filterMap_map]
  exact List.filterMap_some

/-- No number is left out of numbers. -/
theorem filterMap_asNumber_numbers (xs : List Binary64) :
    ((numbers xs).filterMap fun v => v.asNumber.toOption) = xs := by
  rw [numbers, List.filterMap_map]
  exact List.filterMap_some

/-- Arguments that all have the kind pass the check. -/
theorem expectKind_eq_ok (h : ∀ v ∈ values, v.kind = kind) (index : Nat) :
    expectKind kind index values = .ok () := by
  induction values generalizing index with
  | nil => rfl
  | cons v values ih =>
    rw [expectKind, if_pos (h v List.mem_cons_self)]
    exact ih (fun w hw => h w (List.mem_cons_of_mem v hw)) (index + 1)

theorem expectKind_texts (xs : List String) (index : Nat) :
    expectKind .text index (texts xs) = .ok () := by
  have hkind : ∀ v ∈ texts xs, v.kind = .text := List.forall_mem_map.mpr fun _ _ => rfl
  exact expectKind_eq_ok hkind index

theorem expectKind_numbers (xs : List Binary64) (index : Nat) :
    expectKind .number index (numbers xs) = .ok () := by
  have hkind : ∀ v ∈ numbers xs, v.kind = .number := List.forall_mem_map.mpr fun _ _ => rfl
  exact expectKind_eq_ok hkind index

/-! ### What is made of the arguments -/

theorem char_on (c : Call) (values : List Value) :
    char (c.on values) = argument (expectKind .number 0 values) >>= fun _ =>
      .ok (.text (String.ofList
        ((values.filterMap fun v => v.asNumber.toOption).map charOfNumber))) := rfl

theorem join_on (c : Call) (separator : String) (values : List Value) :
    join (c.on (.text separator :: values)) = argument (expectKind .text 1 values) >>= fun _ =>
      .ok (.text (separator.intercalate (values.filterMap fun v => v.asText.toOption))) := rfl

/-- `CHAR` makes one character of each number. -/
theorem makes_char (c : Call) (xs : List Binary64) :
    Makes char c (numbers xs) (String.ofList (xs.map charOfNumber)) := by
  rw [Makes, char_on, expectKind_numbers, filterMap_asNumber_numbers]
  rfl

/-- `JOIN` makes its text of all texts behind the separator. -/
theorem makes_join (c : Call) (separator : String) (xs : List String) :
    Makes join c (.text separator :: texts xs) (separator.intercalate xs) := by
  rw [Makes, join_on, expectKind_texts, filterMap_asText_texts]
  rfl

/-- A character is that of a code, or the replacement character if the code has none. -/
def IsCharOf (code : Int) (ch : Char) : Prop :=
  (ch.toNat : Int) = code ∨ ((∀ d : Char, (d.toNat : Int) ≠ code) ∧ ch = '\ufffd')

/-- A code has one character. -/
theorem IsCharOf.unique {code : Int} {a b : Char} (ha : IsCharOf code a) (hb : IsCharOf code b) :
    a = b := by
  rcases ha with ha | ⟨hnone, rfl⟩ <;> rcases hb with hb | ⟨hnone', rfl⟩
  · exact Char.toNat_inj.mp (Int.ofNat.inj (ha.trans hb.symm))
  · exact absurd ha (hnone' a)
  · exact absurd hb (hnone b)
  · rfl

theorem toNat_of_charOfCode? {code : Nat} {ch : Char} (h : Unicode.charOfCode? code = some ch) :
    ch.toNat = code := by
  by_cases hvalid : code.isValidChar
  · rw [Unicode.charOfCode?, dif_pos hvalid] at h
    cases h
    rfl
  · rw [Unicode.charOfCode?, dif_neg hvalid] at h
    cases h

theorem charOfCode?_toNat (ch : Char) : Unicode.charOfCode? ch.toNat = some ch := by
  have hvalid : ch.toNat.isValidChar := ch.valid
  rw [Unicode.charOfCode?, dif_pos hvalid]
  rfl

/-- The character of a number is that of its truncated code. -/
theorem isCharOf_charOfNumber (x : Binary64) : IsCharOf x.truncate (charOfNumber x) := by
  rcases Int.lt_or_le x.truncate 0 with hneg | hnonneg
  · refine .inr ⟨fun d => by omega, ?_⟩
    rw [charOfNumber, natural?, if_neg (by omega)]
    rfl
  · obtain ⟨code, hcode⟩ := Int.eq_ofNat_of_zero_le hnonneg
    have hchar : charOfNumber x = (Unicode.charOfCode? code).getD '\ufffd' := by
      rw [charOfNumber, natural?, if_pos hnonneg, hcode]
      rfl
    rw [hchar, hcode]
    cases hfound : Unicode.charOfCode? code with
    | some ch => exact .inl (congrArg _ (toNat_of_charOfCode? hfound))
    | none =>
      refine .inr ⟨fun d hd => ?_, rfl⟩
      rw [← Int.ofNat.inj hd, charOfCode?_toNat] at hfound
      cases hfound

/-! ### The faults that are named -/

/-- `CHAR` names the first argument that is not a number. -/
theorem char_namesFirstFault (c : Call) : NamesFirstFault char .number 0 c := by
  refine .of_cases fun values => ?_
  have hbefore : ∀ i < ([] : List Value).length, faultAt? .number 0 ([] ++ values) i = none := nofun
  rcases expectKind_cases (Nat.le_refl 0) hbefore with ⟨hok, hnone⟩ | ⟨e, he, hfirst⟩
  · have hvalue := char_on c values
    rw [show expectKind .number 0 values = .ok () from hok] at hvalue
    exact .inl ⟨⟨_, hvalue⟩, hnone⟩
  · refine .inr ⟨e, ?_, hfirst⟩
    rw [char_on, show expectKind .number 0 values = .error e from he]
    rfl

/-- `JOIN` names its separator, if this is missing or is not a text, and otherwise the first
argument behind it that is not a text. -/
theorem join_namesFirstFault (c : Call) : NamesFirstFault join .text 1 c := by
  refine .of_cases fun values => ?_
  match values with
  | [] => exact .inr ⟨.missingArgument 0, rfl, 0, rfl, nofun⟩
  | .number x :: rest => exact .inr ⟨.wrongKind 0 ⟨.text, .number⟩, rfl, 0, rfl, nofun⟩
  | .boolean b :: rest => exact .inr ⟨.wrongKind 0 ⟨.text, .boolean⟩, rfl, 0, rfl, nofun⟩
  | .text separator :: rest =>
    have hseparator : ∀ i < [Value.text separator].length,
        faultAt? .text 1 ([.text separator] ++ rest) i = none := fun i hi => by
      obtain rfl := Nat.lt_one_iff.mp hi
      rfl
    rcases expectKind_cases (Nat.le_refl 1) hseparator with ⟨hok, hnone⟩ | ⟨e, he, hfirst⟩
    · have hvalue := join_on c separator rest
      rw [show expectKind .text 1 rest = .ok () from hok] at hvalue
      exact .inl ⟨⟨_, hvalue⟩, hnone⟩
    · refine .inr ⟨e, ?_, hfirst⟩
      rw [join_on, show expectKind .text 1 rest = .error e from he]
      rfl

/-! ### In formulas -/

section Formulas

open SheetFormula.Formula SheetFormula.Evaluation SheetFormula.Sequence

variable {σ : Type} {draw : σ → Nat × σ} {token : Option CancellationToken} {s : σ} {u : String}

/-- Literals are evaluated to their values. -/
theorem evaluateAll_literals (env : Environment σ) (token : Option CancellationToken)
    (values : List Value) (s : σ) :
    evaluateAll env token (values.map literal) s = .ok values s := by
  induction values with
  | nil => rfl
  | cons v values ih =>
    have hv : (literal v).evaluate env token s = .ok v s := rfl
    rw [List.map_cons, evaluateAll, bind_eq_of_ok hv, bind_eq_of_ok ih]
    rfl

/-- The formula `CHAR(x; ...)`. -/
def charFormula (xs : List Binary64) : Formula := call "CHAR" ((numbers xs).map literal)

/-- The formula `JOIN(separator;x; ...)`. -/
def joinFormula (separator : String) (xs : List String) : Formula :=
  call "JOIN" ((.text separator :: texts xs).map literal)

theorem evaluate_charFormula (xs : List Binary64) :
    (charFormula xs).evaluate (environment draw) token s =
      .ok (.text (String.ofList (xs.map charOfNumber))) s := by
  have hname : (environment draw).get "CHAR" =
      some (.function ((BaseFunction.computed char).native draw)) := rfl
  have hvalue := makes_char ⟨"CHAR", [], token⟩ xs
  exact evaluate_computed hname (evaluateAll_literals _ _ _ _) hvalue

theorem evaluate_joinFormula (separator : String) (xs : List String) :
    (joinFormula separator xs).evaluate (environment draw) token s =
      .ok (.text (separator.intercalate xs)) s := by
  have hname : (environment draw).get "JOIN" =
      some (.function ((BaseFunction.computed join).native draw)) := rfl
  have hvalue := makes_join ⟨"JOIN", [], token⟩ separator xs
  exact evaluate_computed hname (evaluateAll_literals _ _ _ _) hvalue

end Formulas

/-! ### The laws -/

open SheetFormula.Formula in
/-- Two formulas have one text, whatever the environment of the base functions draws from, and leave
the state of the host as it is. -/
def SameText (f g : Formula) : Prop :=
  ∀ {σ : Type} (draw : σ → Nat × σ) (token : Option CancellationToken) (s : σ), ∃ u,
    f.evaluate (environment draw) token s = .ok (.text u) s ∧
      g.evaluate (environment draw) token s = .ok (.text u) s

/-- The laws of `JOIN` with a separator, in calls that are like `c` otherwise. -/
structure JoinsTexts (c : Call) (separator : String) : Prop where
  /-- `JOIN(separator;u)` is `u`. -/
  single : ∀ u, Makes join c [.text separator, .text u] u
  /-- What is joined of two lists of texts has the separator between what is joined of each. -/
  append : ∀ xs ys, xs ≠ [] → ys ≠ [] →
    ∃ u v, Makes join c (.text separator :: texts xs) u ∧
      Makes join c (.text separator :: texts ys) v ∧
      Makes join c (.text separator :: texts (xs ++ ys)) (u ++ separator ++ v)
  /-- `JOIN(separator;xs;ys)` is `JOIN(separator;xs) & separator & JOIN(separator;ys)`. -/
  formula : ∀ xs ys, xs ≠ [] → ys ≠ [] →
    SameText (joinFormula separator (xs ++ ys))
      (.binary .concat (.binary .concat (joinFormula separator xs) (.literal (.text separator)))
        (joinFormula separator ys))

/-- The laws of `CHAR`, in calls that are like `c` otherwise. -/
structure SpellsCodes (c : Call) : Prop where
  /-- Each number has its character, and there are no others. -/
  characters : ∀ xs, ∃ u, Makes char c (numbers xs) u ∧ u.length = xs.length ∧
    List.Forall₂ (fun x ch => IsCharOf x.truncate ch) xs u.toList
  /-- What is made of two lists of numbers is made up of what is made of each. -/
  append : ∀ xs ys, ∃ u v, Makes char c (numbers xs) u ∧ Makes char c (numbers ys) v ∧
    Makes char c (numbers (xs ++ ys)) (u ++ v)
  /-- `CHAR(xs;ys)` is `CHAR(xs) & CHAR(ys)`. -/
  formula : ∀ xs ys,
    SameText (charFormula (xs ++ ys)) (.binary .concat (charFormula xs) (charFormula ys))

theorem join_laws (c : Call) (separator : String) : JoinsTexts c separator where
  single u := by
    have hmakes := makes_join c separator [u]
    rwa [String.intercalate_singleton] at hmakes
  append xs ys hxs hys := by
    refine ⟨_, _, makes_join c separator xs, makes_join c separator ys, ?_⟩
    rw [← String.intercalate_append_of_ne_nil hxs hys]
    exact makes_join c separator (xs ++ ys)
  formula xs ys hxs hys σ draw token s := by
    refine ⟨_, evaluate_joinFormula separator (xs ++ ys), ?_⟩
    rw [String.intercalate_append_of_ne_nil hxs hys]
    have hseparator : (Formula.literal (.text separator)).evaluate (environment draw) token s =
        .ok (.text separator) s := rfl
    exact Formula.evaluate_concat
      (Formula.evaluate_concat (evaluate_joinFormula separator xs) hseparator)
      (evaluate_joinFormula separator ys)

theorem char_laws (c : Call) : SpellsCodes c where
  characters xs := by
    refine ⟨_, makes_char c xs, ?_, ?_⟩
    · rw [String.length_ofList, List.length_map]
    · rw [String.toList_ofList, List.forall₂_map_right_iff, List.forall₂_same]
      exact fun x _ => isCharOf_charOfNumber x
  append xs ys := by
    refine ⟨_, _, makes_char c xs, makes_char c ys, ?_⟩
    rw [← String.ofList_append, ← List.map_append]
    exact makes_char c (xs ++ ys)
  formula xs ys σ draw token s := by
    refine ⟨_, evaluate_charFormula (xs ++ ys), ?_⟩
    rw [List.map_append, String.ofList_append]
    exact Formula.evaluate_concat (evaluate_charFormula xs) (evaluate_charFormula ys)

/-- **`JOIN` and `CHAR` leave out no argument**, change no order, and name the first argument that
is at fault. -/
theorem variadic_laws (c : Call) :
    ((∀ separator, JoinsTexts c separator) ∧ SpellsCodes c) ∧
      NamesFirstFault join .text 1 c ∧ NamesFirstFault char .number 0 c :=
  ⟨⟨join_laws c, char_laws c⟩, join_namesFirstFault c, char_namesFirstFault c⟩

/-- `JOIN(",";"a";1)` is refused for its third argument. `CHAR(65.5;55296)` is the letter `A` and
the replacement character, as no character has the second code. -/
theorem variadic_laws_mixed :
    join (Call.on ⟨"JOIN", [], none⟩ [.text ",", .text "a", .number 1]) =
      .error (.refused (.wrongKind 2 ⟨.text, .number⟩)) ∧
    ∃ u, Makes char ⟨"CHAR", [], none⟩ (numbers [.ofRatio false 131 2, .ofNat 55296]) u ∧
      u.toList = ['A', '\ufffd'] := by
  have hnamed := (variadic_laws ⟨"JOIN", [], none⟩).2.1
  refine ⟨(hnamed _ _).mpr ⟨_, rfl, 2, rfl, by decide⟩, ?_⟩
  have hspells := (variadic_laws ⟨"CHAR", [], none⟩).1.2
  obtain ⟨u, hu, -, hcharacters⟩ := hspells.characters [.ofRatio false 131 2, .ofNat 55296]
  have hletter : (Binary64.ofRatio false 131 2).truncate = 65 := by decide +kernel
  have hsurrogate : (Binary64.ofNat 55296).truncate = (55296 : Nat) :=
    Binary64.truncate_ofNat (by decide)
  have hnone : ∀ d : Char, (d.toNat : Int) ≠ (55296 : Nat) := by
    intro d hd
    have hvalid : d.toNat.isValidChar := d.valid
    rw [Int.ofNat.inj hd] at hvalid
    revert hvalid
    decide
  obtain ⟨a, cs, ha, hrest, hcs⟩ := List.forall₂_cons_left_iff.mp hcharacters
  obtain ⟨b, cs', hb, hnil, rfl⟩ := List.forall₂_cons_left_iff.mp hrest
  obtain rfl := List.forall₂_nil_left_iff.mp hnil
  rw [hletter] at ha
  rw [hsurrogate] at hb
  have hfirst : a = 'A' := ha.unique (.inl rfl)
  have hsecond : b = '\ufffd' := hb.unique (.inr ⟨hnone, rfl⟩)
  rw [hfirst, hsecond] at hcs
  exact ⟨u, hu, hcs⟩

end BaseLibrary

end SheetFormula
