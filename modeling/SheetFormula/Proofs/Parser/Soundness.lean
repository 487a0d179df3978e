import SheetFormula.Proofs.Grammar.Derivation
import SheetFormula.Proofs.Parser.Scanning

/-!
# The parser reads derivations

What a rule of the parser takes from its source are the tokens of a derivation of its result, and
what it has taken when it fails begins the tokens of some derivation: `Rule.scans_enter`. With the
rules also their whole runs have the finite use of `Parse.Scans`.
-/

namespace SheetFormula

open SheetFormula.Parser SheetFormula.Parse SheetFormula.Sequence

/-! ### What the rules read -/

/-- A rule **reads** tokens as a formula when a derivation does. -/
def Rule.Reads (r : Rule) (f : Formula) (ts : List Token) : Prop :=
  ∃ d : Derivation r, d.formula = f ∧ d.tokens = ts

/-- Tokens **begin** a phrase of a rule when a derivation has them in front. -/
def Rule.Begins (r : Rule) (ts : List Token) : Prop :=
  ∃ d : Derivation r, ts <+: d.tokens

/-- Every rule has a derivation, for instance of zero. -/
instance (r : Rule) : Nonempty (Derivation r) := by
  have term : Derivation .term := .number 0
  have mul : Derivation (.level .multiplicative) := .operand term
  have add : Derivation (.level .additive) := .operand mul
  have rel : Derivation (.level .relational) := .operand add
  rcases r with _ | (_ | _ | _) | _
  · exact ⟨.program rel⟩
  · exact ⟨rel⟩
  · exact ⟨add⟩
  · exact ⟨mul⟩
  · exact ⟨term⟩

theorem Rule.begins_nil (r : Rule) : r.Begins [] :=
  have ⟨d⟩ : Nonempty (Derivation r) := inferInstance
  ⟨d, List.nil_prefix⟩

theorem Operator.eq_symbol_of_ofToken? {t : Token} {op : Operator}
    (h : ofToken? t = some op) : t = .symbol op.symbol := by
  rcases t with _ | _ | _ | s
  · cases h
  · cases h
  · cases h
  · cases s <;> cases h <;> rfl

/-! ### Chains of operators -/

theorem scans_chain {l : Level} {leftSide rightSide : Parse Formula}
    (hleft : Scans leftSide l.tighter.Reads l.tighter.Begins)
    (hright : Scans rightSide (Rule.level l).Reads (Rule.level l).Begins) :
    Scans (chain l leftSide rightSide) (Rule.level l).Reads (Rule.level l).Begins := by
  refine hleft.bind ?_ ?_
  · rintro ts ⟨d, hd⟩
    exact ⟨.operand d, hd⟩
  · rintro _ _ ⟨d, rfl, rfl⟩
    have halone : Scans (pure d.formula)
        (fun f us => (Rule.level l).Reads f (d.tokens ++ us))
        fun us => (Rule.level l).Begins (d.tokens ++ us) :=
      .pure ⟨.operand d, rfl, (List.append_nil _).symm⟩
    rw [peekOperator_bind]
    refine .peek_bind ⟨.operand d, (List.append_nil d.tokens).symm ▸ List.prefix_rfl⟩ halone
      fun t => ?_
    rw [Option.bind_some]
    cases hop : (Operator.ofToken? t).filter (·.level = l) with
    | none => exact .inl halone
    | some op =>
      obtain ⟨ht, hl⟩ := Option.filter_eq_some_iff.mp hop
      obtain rfl := Operator.eq_symbol_of_ofToken? ht
      have hsymbol := Operator.level?_symbol_iff.mpr (of_decide_eq_true hl)
      refine .inr ⟨_, rfl, hright.bind ?_ ?_⟩
      · rintro us ⟨d', hd'⟩
        refine ⟨.binary op hsymbol d d', ?_⟩
        rw [Derivation.tokens]
        exact (List.prefix_append_right_inj _).mpr ((List.prefix_cons_inj _).mpr hd')
      · rintro _ _ ⟨d', rfl, rfl⟩
        refine .pure ⟨.binary op hsymbol d d', rfl, ?_⟩
        rw [List.append_nil, Derivation.tokens]

/-! ### Lists of operands -/

/-- The operands behind the first one, with the fuel that the parser gives them. -/
def Parser.otherOperands (operand : Parse Formula) : Parse (List Formula) := fun p =>
  moreOperands operand (p.pending.length + 2) p

theorem operands_eq (operand : Parse Formula) :
    Parser.operands operand = (do
      let f ← operand
      let fs ← otherOperands operand
      expectSymbol .rightParen
      pure (f :: fs)) :=
  rfl

section Operands

variable {operand : Parse Formula}
  (hoperand : Scans operand Rule.expression.Reads Rule.expression.Begins)
include hoperand

/-- Operands behind one that has been read make, with it and the closing parenthesis, a list. -/
theorem scans_moreOperands (n : Nat) :
    Scans (moreOperands operand n)
      (fun fs ts => ∀ d : Derivation .expression, ∃ os : Operands,
        os.formulas = d.formula :: fs ∧ os.tokens = d.tokens ++ (ts ++ [.symbol .rightParen]))
      fun ts => ∀ d : Derivation .expression, ∃ os : Operands, d.tokens ++ ts <+: os.tokens := by
  induction n with
  | zero => exact .pure fun d => ⟨.last d, rfl, rfl⟩
  | succ n ih =>
    rw [moreOperands, peekIs_bind]
    refine .peek_bind (fun d => ⟨.last d, by simp [Operands.tokens]⟩)
      (.pure fun d => ⟨.last d, rfl, rfl⟩) fun t => ?_
    by_cases ht : t = .symbol .semicolon
    · subst ht
      refine .inr ⟨_, if_pos (by simp), hoperand.bind ?_ ?_⟩
      · rintro ts ⟨d', hts⟩ d
        refine ⟨.more d (.last d'), ?_⟩
        rw [Operands.tokens, Operands.tokens]
        exact (List.prefix_append_right_inj _).mpr
          ((List.prefix_cons_inj _).mpr (hts.trans (List.prefix_append _ _)))
      · rintro _ _ ⟨d', rfl, rfl⟩
        refine ih.bind ?_ ?_
        · intro ts hts d
          obtain ⟨os, hos⟩ := hts d'
          refine ⟨.more d os, ?_⟩
          rw [Operands.tokens]
          exact (List.prefix_append_right_inj _).mpr ((List.prefix_cons_inj _).mpr hos)
        · intro fs ts hts
          refine .pure fun d => ?_
          obtain ⟨os, hfs, hos⟩ := hts d'
          exact ⟨.more d os, by rw [Operands.formulas, hfs], by simp [Operands.tokens, hos]⟩
    · refine .inl ?_
      rw [if_neg (by simpa using ht)]
      exact .pure fun d => ⟨.last d, rfl, rfl⟩

/-- More fuel changes nothing about a run that has enough of it, and nothing about an error. -/
theorem moreOperands_raise {n m : Nat} {p : Parser} (hnm : n ≤ m)
    (h : p.upcoming.length < n ∨ ∃ e q, moreOperands operand n p = .error e q) :
    moreOperands operand m p = moreOperands operand n p := by
  -- on the smaller fuel: every repetition takes a unit of it and at least a token
  induction n generalizing m p with
  | zero =>
    rcases h with h | ⟨e, q, h⟩
    · exact absurd h (Nat.not_lt_zero _)
    · cases h
  | succ n ih =>
    obtain ⟨m, rfl⟩ : ∃ k, m = k + 1 := ⟨m - 1, by omega⟩
    simp only [moreOperands, peekIs_bind] at h ⊢
    refine bind_congr_at fun next? q hq => ?_
    have hpeek := upcoming_of_peek hq
    split
    · rename_i hsemicolon
      refine bind_congr_at fun t q' hq' => bind_congr_at fun f r hr => bind_congr_left (ih ?_ ?_)
      · omega
      rcases h with h | ⟨e, s, h⟩
      · have hnext := congrArg List.length (upcoming_of_next hq')
        have hlen := (hoperand q').length_le hr
        rw [hpeek, List.length_cons] at hnext
        exact .inl (by omega)
      · rw [bind_eq_of_ok hq, if_pos hsemicolon, bind_eq_of_ok hq', bind_eq_of_ok hr] at h
        cases hn : moreOperands operand n r with
        | error e' s' => exact .inr ⟨e', s', rfl⟩
        | ok fs s' =>
          rw [bind_eq_of_ok hn] at h
          cases h
    · rfl

omit hoperand in
theorem Parser.upcoming_length_lt (p : Parser) : p.upcoming.length < p.pending.length + 2 := by
  have hahead : p.ahead.toList.length ≤ 1 := by cases p.ahead <;> simp
  simp only [upcoming, List.length_append, List.length_map]
  omega

/-- The operands behind the first one scan, wherever the fuel for them is taken from. -/
theorem scans_otherOperands :
    Scans (otherOperands operand)
      (fun fs ts => ∀ d : Derivation .expression, ∃ os : Operands,
        os.formulas = d.formula :: fs ∧ os.tokens = d.tokens ++ (ts ++ [.symbol .rightParen]))
      fun ts => ∀ d : Derivation .expression, ∃ os : Operands, d.tokens ++ ts <+: os.tokens := by
  intro p
  have hfuel : ∀ p' : Parser, ∀ n, p'.pending.length + 2 ≤ n →
      otherOperands operand p' = moreOperands operand n p' := fun p' n hn =>
    (moreOperands_raise hoperand hn (.inl p'.upcoming_length_lt)).symm
  have hscans := scans_moreOperands hoperand (p.pending.length + 2) p
  cases hrun : moreOperands operand (p.pending.length + 2) p with
  | ok fs q =>
    obtain ⟨taken, hleads, hread⟩ := hscans.leadsTo_of_ok hrun
    refine .of_eq_ok hrun
      ⟨taken, ⟨hleads.ahead, hleads.depth, hleads.length, hrun, fun p' rest hp' hhead hd => ?_⟩,
        hread⟩
    -- the fuel of either state is enough at the other one when it is raised to the larger
    let n := max (p.pending.length + 2) (p'.pending.length + 2)
    have hn : moreOperands operand n p = .ok fs q :=
      (hfuel p n (Nat.le_max_left _ _)).symm.trans hrun
    obtain ⟨taken', hleads', -⟩ := (scans_moreOperands hoperand n p).leadsTo_of_ok hn
    obtain rfl : taken' = taken := (List.map_inj_right fun _ _ h => Located.seen_injective h).mp
      (List.append_cancel_right (hleads'.ahead.symm.trans hleads.ahead))
    rw [hfuel p' n (Nat.le_max_right _ _)]
    exact hleads'.elsewhere p' rest hp' hhead hd
  | error e q =>
    refine .of_eq_error hrun ((hscans.failsAfter_of_error hrun).imp_right ?_)
    rintro ⟨taken, rest, hfails, hstuck⟩
    refine ⟨taken, rest, ⟨hfails.ahead, hfails.standsAt, fun p' rest' hp' hhead hd => ?_⟩, hstuck⟩
    obtain ⟨e', q', hq', he'⟩ := hfails.elsewhere p' rest' hp' hhead hd
    refine ⟨e', q', ?_, he'⟩
    let n := max (p.pending.length + 2) (p'.pending.length + 2)
    rw [hfuel p' n (Nat.le_max_right _ _),
      moreOperands_raise hoperand (Nat.le_max_left _ _) (.inr ⟨e', q', hq'⟩), hq']

/-- A list of operands is read up to the closing parenthesis. -/
theorem scans_operands :
    Scans (Parser.operands operand)
      (fun fs ts => ∃ os : Operands, os.formulas = fs ∧ os.tokens = ts)
      fun ts => ∃ os : Operands, ts <+: os.tokens := by
  rw [operands_eq]
  refine hoperand.bind ?_ ?_
  · rintro ts ⟨d, hts⟩
    exact ⟨.last d, hts.trans (List.prefix_append _ _)⟩
  · rintro _ _ ⟨d, rfl, rfl⟩
    refine (scans_otherOperands hoperand).bind (fun ts hts => hts d) fun fs ts hts => ?_
    obtain ⟨os, hfs, hos⟩ := hts d
    refine (scans_expectSymbol .rightParen).bind ?_ ?_
    · rintro _ rfl
      refine ⟨os, ?_⟩
      rw [List.append_nil, hos]
      exact (List.prefix_append_right_inj _).mpr (List.prefix_append _ _)
    · rintro _ _ rfl
      refine .pure ⟨os, hfs, ?_⟩
      rw [List.append_nil, hos]

/-- The arguments of a call are read up to the closing parenthesis, which may follow at once. -/
theorem scans_arguments :
    Scans (arguments operand)
      (fun fs ts => (fs = [] ∧ ts = [.symbol .rightParen]) ∨
        ∃ os : Operands, os.formulas = fs ∧ os.tokens = ts)
      fun ts => ∃ os : Operands, ts <+: os.tokens := by
  rw [arguments, peekIs_bind]
  have hos : Scans (Parser.operands operand)
      (fun fs ts => (fs = [] ∧ ts = [.symbol .rightParen]) ∨
        ∃ os : Operands, os.formulas = fs ∧ os.tokens = ts)
      fun ts => ∃ os : Operands, ts <+: os.tokens :=
    (scans_operands hoperand).mono (fun _ _ h => .inr h) fun _ h => h
  refine .peek_bind ?_ hos fun t => ?_
  · obtain ⟨d⟩ : Nonempty (Derivation .expression) := inferInstance
    exact ⟨.last d, List.nil_prefix⟩
  · by_cases ht : t = .symbol .rightParen
    · subst ht
      exact .inr ⟨_, if_pos (by simp), .pure (.inl ⟨rfl, rfl⟩)⟩
    · refine .inl ?_
      rw [if_neg (by simpa using ht)]
      exact hos

end Operands

/-! ### Terms -/

/-- A minus sign that begins a term needs a number. -/
theorem scans_negativeNumber :
    Scans negativeNumber (fun f ts => ∃ x, f = .literal (.number (Binary64.neg x)) ∧
      ts = [.number x]) fun ts => ts = [] := by
  -- the error of this rule is placed by the position of the parser, not by a token in hand
  have hmissing : ∀ p : Parser, (∀ x, p.upcoming.head?.map Prod.fst ≠ some (.token (.number x))) →
      (∀ f, p.upcoming.head?.map Prod.fst ≠ some (.fault f)) →
      ∃ e q, negativeNumber p = .error e q ∧ e.fault = .expectedNumber ∧
        e.StandsAt p.length p.upcoming := by
    intro p hnumber hfault
    rcases hup : p.upcoming with _ | ⟨⟨t | f, s⟩, rest⟩
    · obtain ⟨q, hpeek, hq, ha, hr⟩ := peek_end hup
      refine ⟨⟨q.position, .expectedNumber⟩, q, bind_eq_of_ok hpeek, rfl, ?_, trivial⟩
      rw [position, ha, hr, hq.length]
    · obtain ⟨q, hpeek, hq, ha⟩ := peek_token hup
      refine ⟨⟨q.position, .expectedNumber⟩, q, (bind_eq_of_ok hpeek).trans ?_, rfl, ?_, trivial⟩
      · rw [hup] at hnumber
        cases t with
        | number x => exact absurd rfl (hnumber x)
        | text _ | name _ | symbol _ => rfl
      · rw [position, ha]
    · rw [hup] at hfault
      exact absurd rfl (hfault f)
  intro p
  rcases hup : p.upcoming with _ | ⟨⟨t | f, s⟩, rest⟩
  · refine .fail .expectedNumber rfl fun p' hp' => hmissing p' ?_ ?_ <;> rw [hp', hup] <;> simp
  · cases t with
    | number x =>
      obtain ⟨q, hpeek, hq⟩ := leadsTo_peek (p := p) (some (.number x)) (by rw [hup]; rfl)
      obtain ⟨q', hnext⟩ := leadsTo_next (hq.trans hup)
      refine .of_leadsTo hpeek.bind (.of_leadsTo hnext.bind (Scans.pure ⟨x, rfl, rfl⟩ q'))
    | text _ | name _ | symbol _ =>
      refine .fail .expectedNumber rfl fun p' hp' => hmissing p' ?_ ?_ <;> rw [hp', hup] <;> simp
  · exact .fail_fault rfl hup fun p' rest' hup' => by
      obtain ⟨q, hq⟩ := peek_fault hup'
      exact ⟨q, bind_eq_of_error hq⟩

section Terms

variable {α : Type} {operand : Parse Formula} {k : Formula → Parse α}
  {read : α → List Token → Prop} {stuck : List Token → Prop}
  (hoperand : Scans operand Rule.expression.Reads Rule.expression.Begins)
include hoperand

/-- An expression and the symbol behind it are read before what follows. -/
theorem scans_operand_then {s : Symbol}
    (hstuck : ∀ (d : Derivation .expression) ts, ts <+: d.tokens → stuck ts)
    (hk : ∀ d : Derivation .expression, Scans (k d.formula)
      (fun x us => read x (d.tokens ++ .symbol s :: us))
      fun us => stuck (d.tokens ++ .symbol s :: us)) :
    Scans (do let f ← operand; expectSymbol s; k f) read stuck := by
  refine hoperand.bind ?_ ?_
  · rintro ts ⟨d, hts⟩
    exact hstuck d ts hts
  · rintro _ _ ⟨d, rfl, rfl⟩
    refine (scans_expectSymbol s).bind ?_ ?_
    · rintro _ rfl
      exact hstuck d _ ((List.append_nil d.tokens).symm ▸ List.prefix_rfl)
    · rintro _ _ rfl
      simpa only [List.append_assoc, List.singleton_append] using hk d

/-- What follows the opening parenthesis of a reserved form completes a term. -/
theorem scans_form (reserved : Form) :
    Scans (form operand reserved)
      (fun f ts => Rule.term.Reads f (.name reserved.name :: .symbol .leftParen :: ts))
      fun ts => Rule.term.Begins (.name reserved.name :: .symbol .leftParen :: ts) := by
  obtain ⟨zero⟩ : Nonempty (Derivation .expression) := inferInstance
  cases reserved with
  | conditional =>
    -- the operands that have not been reached when a run gets stuck may be any, for instance zero
    refine scans_operand_then hoperand (fun d ts hts => ⟨.conditional d zero zero, ?_⟩) fun d => ?_
    · simpa [Derivation.tokens] using hts.trans (List.prefix_append _ _)
    refine scans_operand_then hoperand (fun d' ts hts => ⟨.conditional d d' zero, ?_⟩) fun d' => ?_
    · simpa [Derivation.tokens] using hts.trans (List.prefix_append _ _)
    refine scans_operand_then hoperand (fun d'' ts hts => ⟨.conditional d d' d'', ?_⟩) fun d'' => ?_
    · simpa [Derivation.tokens] using hts.trans (List.prefix_append _ _)
    exact .pure ⟨.conditional d d' d'', rfl, rfl⟩
  | constant b =>
    refine (scans_expectSymbol .rightParen).bind ?_ ?_
    · rintro _ rfl
      exact ⟨.constant b, List.prefix_append [_, _] [_]⟩
    · rintro _ _ rfl
      exact .pure ⟨.constant b, rfl, rfl⟩
  | negation =>
    refine scans_operand_then hoperand (fun d ts hts => ⟨.negation d, ?_⟩) fun d => ?_
    · simpa [Derivation.tokens] using hts.trans (List.prefix_append _ _)
    exact .pure ⟨.negation d, rfl, rfl⟩
  | junction kind =>
    refine (scans_operands hoperand).bind ?_ ?_
    · rintro ts ⟨os, hts⟩
      exact ⟨.junction kind os, by simpa [Derivation.tokens] using hts⟩
    · rintro _ _ ⟨os, rfl, rfl⟩
      exact .pure ⟨.junction kind os, rfl, by rw [Derivation.tokens, List.append_nil]⟩

/-- A name is read as a reference, or with what the parenthesis behind it opens. -/
theorem scans_named (name : String) :
    Scans (do
      if ← peekIs (.symbol .leftParen) then
        let _ ← next
        match Form.ofName? name with
        | some reserved => form operand reserved
        | none =>
          let fs ← arguments operand
          pure (.call name fs)
      else
        pure (.reference name))
      (fun f ts => Rule.term.Reads f (.name name :: ts))
      fun ts => Rule.term.Begins (.name name :: ts) := by
  have hreference : Scans (pure (.reference name))
      (fun f ts => Rule.term.Reads f (.name name :: ts))
      fun ts => Rule.term.Begins (.name name :: ts) :=
    .pure ⟨.reference name, rfl, rfl⟩
  rw [peekIs_bind]
  refine .peek_bind ⟨.reference name, List.prefix_rfl⟩ hreference fun t => ?_
  by_cases ht : t = .symbol .leftParen
  · subst ht
    refine .inr ⟨_, if_pos (by simp), ?_⟩
    cases hname : Form.ofName? name with
    | some reserved =>
      rw [Form.name_of_ofName? hname]
      exact scans_form hoperand reserved
    | none =>
      refine (scans_arguments hoperand).bind ?_ ?_
      · rintro ts ⟨os, hts⟩
        exact ⟨.call name hname os, by simpa [Derivation.tokens] using hts⟩
      · rintro _ _ (⟨rfl, rfl⟩ | ⟨os, rfl, rfl⟩)
        · exact .pure ⟨.bareCall name hname, rfl, rfl⟩
        · exact .pure ⟨.call name hname os, rfl, by rw [Derivation.tokens, List.append_nil]⟩
  · refine .inl ?_
    rw [if_neg (by simpa using ht)]
    exact hreference

theorem scans_term : Scans (Parser.term operand) Rule.term.Reads Rule.term.Begins := by
  refine .next_bind (Rule.begins_nil _) ?_
  rintro ⟨x | s | name | s, start⟩
  · exact .inr (.pure ⟨.number x, rfl, rfl⟩)
  · exact .inr (.pure ⟨.text s, rfl, rfl⟩)
  · exact .inr (scans_named hoperand name)
  · cases s with
    | leftParen =>
      refine .inr (scans_operand_then hoperand (fun d ts hts => ⟨.group d, ?_⟩) fun d => ?_)
      · simpa [Derivation.tokens] using hts.trans (List.prefix_append _ _)
      · exact .pure ⟨.group d, rfl, rfl⟩
    | minus =>
      refine .inr (scans_negativeNumber.mono ?_ ?_)
      · rintro _ _ ⟨x, rfl, rfl⟩
        exact ⟨.negative x, rfl, rfl⟩
      · rintro _ rfl
        exact ⟨.negative 0, List.prefix_append [_] [_]⟩
    | _ => exact .inl rfl

end Terms

/-! ### Programs -/

/-- What a program does behind its expression: the source must end there. -/
def Parser.finish (f : Formula) : Parse Formula := do
  let _ ← peek
  match (← get).ahead with
  | none => pure f
  | some t =>
    modify fun p => { p with ahead := none }
    throw ⟨t.start, .trailingToken t.token⟩

theorem program_eq (expression : Parse Formula) :
    Parser.program expression = expression >>= finish :=
  rfl

section Finish

variable {f : Formula} {p : Parser}

theorem finish_end (h : p.upcoming = []) : ∃ q, finish f p = .ok f q ∧ p.MovedTo [] q := by
  obtain ⟨q, hpeek, hq, ha, -⟩ := peek_end h
  refine ⟨q, (bind_eq_of_ok hpeek).trans ?_, hq⟩
  obtain ⟨ahead, pending, reached, length, depth, deepest⟩ := q
  cases ha
  rfl

theorem finish_token {t : Token} {s : Nat} {rest : List (Reading × Nat)}
    (h : p.upcoming = (.token t, s) :: rest) :
    ∃ q, finish f p = .error ⟨s, .trailingToken t⟩ q := by
  obtain ⟨q, hpeek, hq, ha⟩ := peek_token h
  refine ⟨{ q with ahead := none }, (bind_eq_of_ok hpeek).trans ?_⟩
  obtain ⟨ahead, pending, reached, length, depth, deepest⟩ := q
  cases ha
  rfl

theorem finish_fault {fault : LexicalFault} {s : Nat} {rest : List (Reading × Nat)}
    (h : p.upcoming = (.fault fault, s) :: rest) :
    ∃ q, finish f p = .error ⟨s, .lexical fault⟩ q := by
  obtain ⟨q, hpeek⟩ := peek_fault h
  exact ⟨q, bind_eq_of_error hpeek⟩

/-- Nothing is left where a program ends. -/
theorem upcoming_of_finish {g : Formula} {q : Parser} (h : finish f p = .ok g q) :
    q.upcoming = [] := by
  rcases hp : p.upcoming with _ | ⟨⟨t | fault, s⟩, rest⟩
  · obtain ⟨r, hr, hmoved⟩ := finish_end (f := f) hp
    cases hr.symm.trans h
    exact hmoved.upcoming
  · obtain ⟨r, hr⟩ := finish_token (f := f) hp
    cases hr.symm.trans h
  · obtain ⟨r, hr⟩ := finish_fault (f := f) hp
    cases hr.symm.trans h

end Finish

/-- A program is an expression that nothing follows. -/
theorem scans_program {expression : Parse Formula}
    (h : Scans expression Rule.expression.Reads Rule.expression.Begins) :
    Scans (Parser.program expression) Rule.program.Reads Rule.program.Begins := by
  rw [program_eq]
  refine h.bind ?_ ?_
  · rintro ts ⟨d, hts⟩
    exact ⟨.program d, hts⟩
  · rintro _ _ ⟨d, rfl, rfl⟩ p
    have hstuck : Rule.program.Begins (d.tokens ++ []) :=
      ⟨.program d, (List.append_nil d.tokens).symm ▸ List.prefix_rfl⟩
    rcases hup : p.upcoming with _ | ⟨⟨t | f, s⟩, rest⟩
    · obtain ⟨q, hq, hmoved⟩ := finish_end (f := d.formula) hup
      refine .of_eq_ok hq ⟨[], ⟨hup.trans hmoved.upcoming.symm, hmoved.depth, hmoved.length, hq,
        fun p' rest hp' hhead _ => ?_⟩, .program d, rfl, (List.append_nil _).symm⟩
      rw [hmoved.upcoming, List.head?_nil, List.head?_eq_none_iff] at hhead
      subst hhead
      exact finish_end hp'
    · refine .fail (.trailingToken t) hstuck fun p' hp' => ?_
      rw [hup, List.head?_cons, List.head?_eq_some_iff] at hp'
      obtain ⟨rest', hup'⟩ := hp'
      obtain ⟨q, hq⟩ := finish_token (f := d.formula) hup'
      exact ⟨_, q, hq, rfl, by rw [hup']; exact ⟨rfl, rfl⟩⟩
    · exact .fail_fault hstuck hup fun p' rest' hup' => finish_fault hup'

/-! ### All rules -/

/-- **Every rule scans**: what it takes is read by a derivation of its result, and what it has taken
when it fails begins a derivation. -/
theorem Rule.scans_enter (ceiling fuel : Nat) (r : Rule) :
    Scans (r.enter ceiling fuel) r.Reads r.Begins := by
  refine scans_descend ?_
  induction fuel generalizing r with
  -- a run without fuel is refused as one at the ceiling is
  | zero => exact fun p => .of_eq_error rfl (.inl rfl)
  | succ fuel ih =>
    have henter : ∀ below : Rule, Scans (below.enter ceiling fuel) below.Reads below.Begins :=
      fun below => scans_descend (ih below)
    cases r with
    | program => exact scans_program (henter .expression)
    | level l => exact scans_chain (henter l.tighter) (henter (.level l))
    | term => exact scans_term (henter .expression)

end SheetFormula
