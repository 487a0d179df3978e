import SheetFormula.BaseLibrary
import SheetFormula.Proofs.Text.Boundaries

/-!
# Base functions always answer

A computation **answers** when it has a value or refuses the arguments (`BaseLibrary.Answers`): it
takes no piece that is not there, and no position leaves its words. Answers go through sequences of
computations, so what is left to show for a base function is why its own cuts and positions are in
order: an index that has been read is one of the arguments, floors are boundaries and keep the
order, and an occurrence is found before the end of the text. So a base function other than `RAND`
fails in no other way than by refusing its arguments (`BaseLibrary.value_or_refusal`).
-/

namespace SheetFormula

/-! ### The arguments of a call -/

/-- The argument that a call error is about, if it is about one. -/
def CallError.argument? : CallError → Option Nat
  | missingArgument index | wrongKind index _ => some index
  | invalid _ => none

namespace Call

variable {α : Type} {projection : Value → Except KindMismatch α} {c : Call} {a : α} {e : CallError}
  {index start : Nat} {kind : Kind} {values : List Value}

/-- A call is **held in words** when words are enough to count its arguments and the bytes of each
text among them. Nothing is said of the text that they make together. -/
structure HeldInWords (c : Call) : Prop where
  length_le : c.values.length ≤ Word.limit
  byteSize_lt : ∀ s, .text s ∈ c.values → s.utf8ByteSize < Word.limit

/-- What a projection of an argument comes to. -/
theorem project_eq_match (projection : Value → Except KindMismatch α) (c : Call) (index : Nat) :
    c.project projection index =
      match c.values[index]? with
      | none => .error (.missingArgument index)
      | some v => (projection v).mapError (CallError.wrongKind index) := by
  unfold project value
  cases c.values[index]? <;> rfl

theorem project_eq_ok (h : c.project projection index = .ok a) :
    ∃ v, c.values[index]? = some v ∧ projection v = .ok a := by
  rw [project_eq_match] at h
  split at h
  · cases h
  · next v hv =>
    refine ⟨v, hv, ?_⟩
    cases hp : projection v with
    | ok b =>
      rw [hp] at h
      cases h
      rfl
    | error m =>
      rw [hp] at h
      cases h

/-- An index that has been read is that of an argument. -/
theorem lt_length_of_project (h : c.project projection index = .ok a) :
    index < c.values.length := by
  obtain ⟨v, hv, -⟩ := project_eq_ok h
  exact (List.getElem?_eq_some_iff.mp hv).1

theorem argument?_of_value {v : CallError} (h : c.value index = .error v) :
    v.argument? = some index := by
  unfold value at h
  split at h <;> cases h
  rfl

/-- A projection that fails is about the argument that it was asked for. -/
theorem argument?_of_project (h : c.project projection index = .error e) :
    e.argument? = some index := by
  rw [project_eq_match] at h
  split at h
  · cases h
    rfl
  · next v _ =>
    cases hp : projection v with
    | ok b =>
      rw [hp] at h
      cases h
    | error m =>
      rw [hp] at h
      cases h
      rfl

theorem argument?_of_numberOr {default : Binary64} (h : c.numberOr index default = .error e) :
    e.argument? = some index := by
  unfold numberOr at h
  split at h
  · cases h
  · exact argument?_of_project h

theorem argument?_of_expectKind (h : expectKind kind index values = .error e) :
    ∃ k < values.length, e.argument? = some (index + k) := by
  induction values generalizing index with
  | nil => cases h
  | cons v values ih =>
    rw [expectKind] at h
    split at h
    · obtain ⟨k, hk, he⟩ := ih h
      refine ⟨k + 1, Nat.succ_lt_succ hk, ?_⟩
      rw [he, Nat.add_assoc, Nat.add_comm 1]
    · cases h
      exact ⟨0, Nat.zero_lt_succ _, rfl⟩

/-- An argument that has not the kind of the rest is one of the call. -/
theorem argument?_of_expectRest (h : c.expectRest start kind = .error e) :
    ∃ i < c.values.length, e.argument? = some i := by
  obtain ⟨k, hk, he⟩ := argument?_of_expectKind h
  rw [List.length_drop] at hk
  exact ⟨start + k, by omega, he⟩

/-- A text that has been read is an argument. -/
theorem mem_values_of_text {s : String} (h : c.text index = .ok s) : .text s ∈ c.values := by
  obtain ⟨v, hv, hs⟩ := project_eq_ok h
  cases v <;> cases hs
  exact List.mem_of_getElem? hv

end Call

namespace BaseLibrary

/-! ### Answers -/

section Answers

variable {α β : Type}

/-- A computation **answers** when it has a value or refuses the arguments; the index of an argument
that it is refused for is a word. -/
def Answers (x : Computation α) : Prop :=
  (∃ a, x = .ok a) ∨ ∃ e, x = .error (.refused e) ∧ ∀ index ∈ e.argument?, index < Word.limit

namespace Answers

theorem ok (a : α) : Answers (.ok a) := .inl ⟨a, rfl⟩

theorem refuse (reason : String) : Answers (refuse reason : Computation α) :=
  .inr ⟨_, rfl, fun _ h => by cases h⟩

theorem bind {x : Computation α} {f : α → Computation β} (hx : Answers x)
    (hf : ∀ a, x = .ok a → Answers (f a)) : Answers (x >>= f) := by
  rcases hx with ⟨a, rfl⟩ | ⟨e, rfl, he⟩
  · exact hf a rfl
  · exact .inr ⟨e, rfl, he⟩

theorem ite {p : Prop} [Decidable p] {x y : Computation α} (hx : p → Answers x)
    (hy : ¬ p → Answers y) : Answers (if p then x else y) := by
  split
  · next h => exact hx h
  · next h => exact hy h

/-- A projection answers if the arguments that it may refuse are counted in words. -/
theorem argument {x : Except CallError α}
    (h : ∀ e, x = .error e → ∀ index ∈ e.argument?, index < Word.limit) :
    Answers (argument x) := by
  cases x with
  | ok a => exact .ok a
  | error e => exact .inr ⟨e, rfl, h e rfl⟩

end Answers

theorem argument_eq_ok {x : Except CallError α} {a : α} (h : argument x = .ok a) : x = .ok a := by
  cases x with
  | ok b =>
    cases h
    rfl
  | error e => cases h

end Answers

/-! ### Arguments and cuts -/

section Parts

variable {c : Call} {index : Nat}

theorem answers_project {α : Type} (projection : Value → Except KindMismatch α) (c : Call)
    (hindex : index < Word.limit) : Answers (argument (c.project projection index)) := by
  refine .argument fun e he i hi => ?_
  cases (Call.argument?_of_project he).symm.trans hi
  exact hindex

theorem answers_number (c : Call) (hindex : index < Word.limit) :
    Answers (argument (c.number index)) :=
  answers_project _ c hindex

theorem answers_text (c : Call) (hindex : index < Word.limit) :
    Answers (argument (c.text index)) :=
  answers_project _ c hindex

theorem answers_value (c : Call) (hindex : index < Word.limit) :
    Answers (argument (c.value index)) := by
  refine .argument fun e he i hi => ?_
  cases (Call.argument?_of_value he).symm.trans hi
  exact hindex

theorem answers_numberOr (c : Call) (default : Binary64) (hindex : index < Word.limit) :
    Answers (argument (c.numberOr index default)) := by
  refine .argument fun e he i hi => ?_
  cases (Call.argument?_of_numberOr he).symm.trans hi
  exact hindex

theorem answers_expectRest (hc : c.HeldInWords) (start : Nat) (kind : Kind) :
    Answers (argument (c.expectRest start kind)) := by
  refine .argument fun e he i hi => ?_
  obtain ⟨k, hk, hargument⟩ := Call.argument?_of_expectRest he
  cases hargument.symm.trans hi
  exact Nat.lt_of_lt_of_le hk hc.length_le

theorem answers_argumentsFrom {start : Nat} (h : start ≤ c.values.length) :
    Answers (argumentsFrom c start) := by
  rw [argumentsFrom, if_pos h]
  exact .ok _

theorem answers_count (c : Call) (default : Binary64) (hindex : index < Word.limit) :
    Answers (count c index default) :=
  (answers_numberOr c default hindex).bind fun _ _ => .ite (fun _ => .refuse _) fun _ => .ok _

/-- **Cuts at boundaries in order answer.** -/
theorem answers_piece {cs : List Char} {start stop : Nat} (hstart : Text.IsBoundary cs start)
    (hstop : Text.IsBoundary cs stop) (h : start ≤ stop) : Answers (piece cs start stop) := by
  obtain ⟨cut, hcut⟩ := hstart.exists_slice? hstop h
  rw [piece, hcut]
  exact .ok _

end Parts

/-- A start that is counted from zero is a word, also when it is no more than that. -/
theorem lt_limit_of_natural?_offset {n : Int} {start : Nat}
    (h : natural? (offset n) = some start) : start < Word.limit := by
  have hgreatest : offset n ≤ Word.greatest := by
    unfold offset Word.saturated Word.least Word.greatest
    omega
  unfold natural? clamped at h
  split at h
  · cases h
    unfold Word.greatest at hgreatest
    unfold Word.limit
    omega
  · cases h

/-- A word that is moved on is not moved back, as far as words reach. -/
theorem le_advanced {position distance : Nat} (h : position < Word.limit) :
    position ≤ advanced position distance := by
  unfold advanced
  omega

/-! ### The functions -/

section Functions

variable {c : Call}

theorem answers_unary (operation : Binary64 → Binary64) (c : Call) : Answers (unary operation c) :=
  (answers_number c (by decide)).bind fun _ _ => .ok _

theorem answers_choose (c : Call) : Answers (choose c) := by
  refine (answers_number c (by decide)).bind fun x hx => ?_
  have hlength : 1 ≤ c.values.length := Call.lt_length_of_project (argument_eq_ok hx)
  refine (answers_argumentsFrom hlength).bind fun choices _ => ?_
  split
  · exact .ok _
  · exact .refuse _

theorem answers_type (c : Call) : Answers (type c) :=
  (answers_value c (by decide)).bind fun _ _ => .ok _

theorem answers_char (hc : c.HeldInWords) : Answers (char c) :=
  (answers_expectRest hc 0 .number).bind fun _ _ => .ok _

theorem answers_join (hc : c.HeldInWords) : Answers (join c) := by
  refine (answers_text c (by decide)).bind fun separator hseparator => ?_
  have hlength : 1 ≤ c.values.length := Call.lt_length_of_project (argument_eq_ok hseparator)
  refine (answers_expectRest hc 1 .text).bind fun _ _ => ?_
  exact (answers_argumentsFrom hlength).bind fun _ _ => .ok _

theorem answers_rept (c : Call) : Answers (rept c) := by
  refine (answers_text c (by decide)).bind fun s _ => ?_
  refine (answers_number c (by decide)).bind fun _ _ => ?_
  refine (answers_count c _ (by decide)).bind fun n _ => ?_
  exact .ite (fun _ => .ok _) fun _ => .refuse _

/-- A function of one text that computes its value from it alone. -/
theorem answers_of_text (f : String → Value) (c : Call) :
    Answers (do let s ← argument (c.text 0); pure (f s)) :=
  (answers_text c (by decide)).bind fun _ _ => .ok _

theorem answers_left (c : Call) : Answers (left c) := by
  refine (answers_text c (by decide)).bind fun s _ => ?_
  refine (answers_count c _ (by decide)).bind fun n _ => ?_
  exact answers_piece (Text.isBoundary_zero _) (Text.isBoundary_floorBoundary _ n) (Nat.zero_le _)

theorem answers_right (c : Call) : Answers (right c) := by
  refine (answers_text c (by decide)).bind fun s _ => ?_
  refine (answers_count c _ (by decide)).bind fun n _ => ?_
  have hfloor := Text.isBoundary_floorBoundary s.toList (Text.byteLength s.toList - n)
  exact answers_piece hfloor (Text.isBoundary_byteLength _) hfloor.le_byteLength

theorem answers_mid (c : Call) : Answers (mid c) := by
  refine (answers_text c (by decide)).bind fun s _ => ?_
  refine (answers_number c (by decide)).bind fun x _ => ?_
  refine (answers_count c _ (by decide)).bind fun length _ => ?_
  split
  · exact .ok _
  · next start hstart =>
    refine .ite (fun _ => .ok _) fun _ => ?_
    refine answers_piece (Text.isBoundary_floorBoundary _ _) (Text.isBoundary_floorBoundary _ _) ?_
    exact Text.floorBoundary_mono _ (le_advanced (lt_limit_of_natural?_offset hstart))

theorem answers_searchFrom (needle : List Char) {cs : List Char} (from0 : Int)
    (hcs : Text.byteLength cs < Word.limit) : Answers (searchFrom needle cs from0) := by
  unfold searchFrom
  split
  · exact .ok _
  · next start _ =>
    refine .ite (fun _ => .ok _) fun hstart => ?_
    have hfloor := Text.isBoundary_floorBoundary cs start
    have hend := Text.isBoundary_byteLength cs
    obtain ⟨rest, hrest⟩ := hfloor.exists_slice? hend hfloor.le_byteLength
    obtain ⟨before, after, hcut, hbefore, hlength⟩ := Text.slice?_eq_some_iff.mp hrest
    have hle := Text.floorBoundary_le cs start
    dsimp only
    rw [hrest]
    refine Answers.bind (.ok rest) fun rest' h => ?_
    cases h
    split
    · exact .ok _
    · next found hfound =>
      -- the rest is not empty, so the occurrence begins before its end
      have hne : rest ≠ [] := by
        rintro rfl
        rw [List.append_nil] at hlength
        omega
      have hlt := Text.find?_lt hfound hne
      rw [Text.byteLength_append] at hlength
      rw [inWord, if_pos (by omega)]
      exact .ok _

theorem answers_search (hc : c.HeldInWords) : Answers (search c) := by
  refine (answers_text c (by decide)).bind fun needle _ => ?_
  refine (answers_text c (by decide)).bind fun s hs => ?_
  refine (answers_numberOr c _ (by decide)).bind fun x _ => ?_
  have hlength : Text.byteLength s.toList < Word.limit := by
    rw [Text.byteLength_toList]
    exact hc.byteSize_lt s (Call.mem_values_of_text (argument_eq_ok hs))
  refine (answers_searchFrom needle.toList (offset x.truncate) hlength).bind fun found _ => ?_
  cases found <;> exact .ok _

/-- The functions of the library that compute their value answer. -/
theorem answers_of_mem (hc : c.HeldInWords) :
    ∀ entry ∈ functions, ∀ compute, entry.2 = .computed compute → Answers (compute c) := by
  simp only [functions, List.forall_mem_cons, List.not_mem_nil, BaseFunction.computed.injEq,
    forall_eq', reduceCtorEq, false_implies, implies_true, true_and, and_true]
  exact ⟨answers_choose c, answers_type c, answers_unary _ c, answers_unary _ c, answers_unary _ c,
    answers_unary _ c, .ok _, answers_unary _ c, answers_char hc, answers_join hc, answers_left c,
    answers_of_text _ c, answers_of_text _ c, answers_mid c, answers_rept c, answers_right c,
    answers_search hc, answers_of_text _ c, answers_of_text _ c⟩

end Functions

/-! ### The library -/

/-- What is looked up in a list stands in it. -/
theorem mem_of_lookup {α : Type} {entries : List (String × α)} {name : String} {a : α}
    (h : entries.lookup name = some a) : (name, a) ∈ entries := by
  obtain ⟨earlier, later, hsplit, -⟩ := List.lookup_eq_some_iff.mp h
  rw [hsplit]
  exact List.mem_append_right _ (List.mem_cons_self ..)

/-- All functions of the library but `RAND` compute their value. -/
theorem eq_rand_of_random :
    ∀ entry ∈ functions, entry.2 = .random → entry.1 = "RAND" := by
  simp [functions]

/-- **Base functions have a value or refuse their arguments.** Every base function but `RAND`
computes its value from its call. Whatever the arguments are and whatever name the call is by, the
computation has a value or refuses the arguments. It takes no piece of a text or of the arguments
that is not there, no position leaves its words, and neither does the index of an argument that is
refused. So the host gets a value or a call error from it, and finds its state as it was. -/
theorem value_or_refusal {name : String} {f : BaseFunction} (hf : find? name = some f)
    (hname : name ≠ "RAND") {c : Call} (hc : c.HeldInWords) :
    (∃ compute, f = .computed compute ∧ Answers (compute c)) ∧
    ∀ (σ : Type) (draw : σ → Nat × σ) (s : σ),
      (∃ v, f.native draw c s = .ok v s) ∨ ∃ e, f.native draw c s = .error (.call e) s := by
  have hmem : (name, f) ∈ functions := mem_of_lookup hf
  cases f with
  | random => exact absurd (eq_rand_of_random _ hmem rfl) hname
  | computed compute =>
    have hanswers := answers_of_mem hc _ hmem compute rfl
    refine ⟨⟨compute, rfl, hanswers⟩, fun σ draw s => ?_⟩
    rcases hanswers with ⟨v, hv⟩ | ⟨e, he, -⟩
    · exact .inl ⟨v, by simp only [BaseFunction.native, hv]⟩
    · exact .inr ⟨e, by simp only [BaseFunction.native, he]⟩

/-- The start lies within `ä` and the length is infinite. -/
theorem value_or_refusal_mid :
    let c : Call := ⟨"CUT", [.text "aäb", .number 3, .number (.infinite false)], none⟩
    find? "MID" = some (.computed mid) ∧ c.HeldInWords ∧
      (mid c).toOption = some (.text "äb") ∧ Answers (mid c) := by
  intro c
  have hfind : find? "MID" = some (.computed mid) := rfl
  have hc : c.HeldInWords := ⟨by decide, by simp [c, Word.limit]; decide⟩
  obtain ⟨⟨compute, hcompute, hanswers⟩, -⟩ := value_or_refusal hfind (by decide) hc
  cases hcompute
  exact ⟨hfind, hc, by decide +kernel, hanswers⟩

end BaseLibrary

end SheetFormula
