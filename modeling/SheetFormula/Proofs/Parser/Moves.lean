import SheetFormula.Parser.Rules
import SheetFormula.Proofs.Sequence

/-!
# What the moves of a parser do to what lies ahead

The rules look at a parser through `Parser.upcoming` only: the readings that it has not taken, the
token looked at and the items not scanned alike. Each move is described by its effect on that list,
in three cases: a token comes next, a place where no token can be read comes next, or nothing
does. A move leaves the depth and the length of the source alone (`Parser.MovedTo`).

`Parse.Ensures` is the judgement that a run from a given state ends as said, be it with a result
or with an error. Sequences of moves are run through with `Parse.Ensures.bind`.
-/

namespace SheetFormula

open SheetFormula.Sequence

/-! ### Outcomes of a run -/

/-- A run from the state `p` **ensures** its outcome: a result with the final state satisfies
`done`, an error with the final state satisfies `failed`. -/
def Parse.Ensures {α : Type} (a : Parse α) (p : Parser) (done : α → Parser → Prop)
    (failed : SyntaxError → Parser → Prop) : Prop :=
  match a p with
  | .ok x q => done x q
  | .error e q => failed e q

namespace Parse.Ensures

variable {α β : Type} {a : Parse α} {f : α → Parse β} {p q : Parser} {x : α}
  {done : α → Parser → Prop} {failed : SyntaxError → Parser → Prop}

theorem of_eq_ok (ha : a p = .ok x q) (h : done x q) : Ensures a p done failed := by
  simpa only [Ensures, ha] using h

theorem of_eq_error {e : SyntaxError} (ha : a p = .error e q) (h : failed e q) :
    Ensures a p done failed := by
  simpa only [Ensures, ha] using h

theorem done_of_ok (h : Ensures a p done failed) (ha : a p = .ok x q) : done x q := by
  simpa only [Ensures, ha] using h

theorem failed_of_error {e : SyntaxError} (h : Ensures a p done failed) (ha : a p = .error e q) :
    failed e q := by
  simpa only [Ensures, ha] using h

/-- What a run ensures is said of its outcome alone. -/
theorem congr {b : Parse α} (hab : a p = b p) (h : Ensures b p done failed) :
    Ensures a p done failed := by
  unfold Ensures at *
  rwa [hab]

theorem pure (h : done x p) : Ensures (Pure.pure x) p done failed := h

/-- A sequence ensures what its second part does from the state that the first one has reached. -/
theorem bind_of_ok {done' : β → Parser → Prop} (ha : a p = .ok x q)
    (hf : Ensures (f x) q done' failed) : Ensures (a >>= f) p done' failed := by
  unfold Ensures at *
  rwa [bind_eq_of_ok ha]

/-- A sequence ensures what its second part ensures after the first. -/
theorem bind {done' : β → Parser → Prop} (ha : Ensures a p done failed)
    (hf : ∀ x q, done x q → Ensures (f x) q done' failed) : Ensures (a >>= f) p done' failed := by
  cases hap : a p with
  | ok x q => exact bind_of_ok hap (hf x q (ha.done_of_ok hap))
  | error e q => exact .of_eq_error (bind_eq_of_error hap) (ha.failed_of_error hap)

/-- Reading the state moves nothing. -/
theorem get_bind {k : Parser → Parse α} (h : Ensures (k p) p done failed) :
    Ensures (get >>= k) p done failed := h

theorem mono {done' : α → Parser → Prop} {failed' : SyntaxError → Parser → Prop}
    (h : Ensures a p done failed) (hdone : ∀ x q, done x q → done' x q)
    (hfailed : ∀ e q, failed e q → failed' e q) : Ensures a p done' failed' := by
  cases hap : a p with
  | ok x q => exact .of_eq_ok hap (hdone x q (h.done_of_ok hap))
  | error e q => exact .of_eq_error hap (hfailed e q (h.failed_of_error hap))

end Parse.Ensures

/-! ### What lies ahead -/

/-- An item as what was read and the byte where it starts. -/
def Item.seen (i : Item) : Reading × Nat := (i.reading, i.start)

/-- A token as what was read and the byte where it starts. -/
def Located.seen (t : Located) : Reading × Nat := (.token t.token, t.start)

namespace Parser

/-- What a parser has not taken: the readings that lie ahead, each with the byte where it
starts. -/
def upcoming (p : Parser) : List (Reading × Nat) :=
  p.ahead.toList.map Located.seen ++ p.pending.map Item.seen

/-- `q` is `p` **moved to** where `rest` lies ahead, at the same depth in the same source. -/
structure MovedTo (p : Parser) (rest : List (Reading × Nat)) (q : Parser) : Prop where
  upcoming : q.upcoming = rest
  depth : q.depth = p.depth
  length : q.length = p.length

theorem MovedTo.trans {p q r : Parser} {rest rest' : List (Reading × Nat)}
    (h : p.MovedTo rest q) (h' : q.MovedTo rest' r) : p.MovedTo rest' r :=
  ⟨h'.upcoming, h'.depth.trans h.depth, h'.length.trans h.length⟩

theorem upcoming_start (source : String) :
    (start source).upcoming = (Item.list source).map Item.seen := rfl

variable {p : Parser} {t : Token} {s : Nat} {f : LexicalFault} {rest : List (Reading × Nat)}

/-- Nothing lies ahead only when no token has been looked at and all items are scanned. -/
theorem upcoming_eq_nil (h : p.upcoming = []) : p.ahead = none ∧ p.pending = [] := by
  simpa [upcoming] using h

/-- What comes next is the token looked at, or else the item to be scanned next. -/
theorem upcoming_eq_cons {r : Reading} (h : p.upcoming = (r, s) :: rest) :
    (∃ t, p.ahead = some ⟨t, s⟩ ∧ r = .token t ∧ rest = p.pending.map Item.seen) ∨
      ∃ stop items, p.ahead = none ∧ p.pending = ⟨r, s, stop⟩ :: items ∧
        rest = items.map Item.seen := by
  unfold upcoming at h
  rcases hahead : p.ahead with _ | ⟨t', s'⟩
  · rcases hpending : p.pending with _ | ⟨⟨r', s', stop⟩, items⟩
    · simp [hahead, hpending] at h
    · simp only [hahead, hpending, Option.toList_none, List.map_nil, List.nil_append,
        List.map_cons, List.cons.injEq, Item.seen, Prod.mk.injEq] at h
      obtain ⟨⟨rfl, rfl⟩, rfl⟩ := h
      exact .inr ⟨stop, items, rfl, rfl, rfl⟩
  · simp only [hahead, Option.toList_some, List.map_cons, List.map_nil, List.singleton_append,
      List.cons.injEq, Located.seen, Prod.mk.injEq] at h
    obtain ⟨⟨rfl, rfl⟩, rfl⟩ := h
    exact .inl ⟨t', rfl, rfl, rfl⟩

/-! ### Looking and taking -/

theorem peek_token (h : p.upcoming = (.token t, s) :: rest) :
    ∃ q, peek p = .ok (some t) q ∧ p.MovedTo p.upcoming q ∧ q.ahead = some ⟨t, s⟩ := by
  obtain ⟨ahead, pending, reached, length, depth, deepest⟩ := p
  rcases upcoming_eq_cons h with ⟨t', rfl, ht, rfl⟩ | ⟨stop, items, rfl, rfl, rfl⟩
  · cases ht
    exact ⟨_, rfl, ⟨rfl, rfl, rfl⟩, rfl⟩
  · exact ⟨_, rfl, ⟨rfl, rfl, rfl⟩, rfl⟩

theorem peek_end (h : p.upcoming = []) :
    ∃ q, peek p = .ok none q ∧ p.MovedTo [] q ∧ q.ahead = none ∧ q.reached = q.length := by
  obtain ⟨ahead, pending, reached, length, depth, deepest⟩ := p
  obtain ⟨rfl, rfl⟩ := upcoming_eq_nil h
  exact ⟨_, rfl, ⟨rfl, rfl, rfl⟩, rfl, rfl⟩

theorem peek_fault (h : p.upcoming = (.fault f, s) :: rest) :
    ∃ q, peek p = .error ⟨s, .lexical f⟩ q := by
  obtain ⟨ahead, pending, reached, length, depth, deepest⟩ := p
  rcases upcoming_eq_cons h with ⟨t', -, ht, -⟩ | ⟨stop, items, rfl, rfl, -⟩
  · cases ht
  · exact ⟨_, rfl⟩

theorem next_token (h : p.upcoming = (.token t, s) :: rest) :
    ∃ q, next p = .ok ⟨t, s⟩ q ∧ p.MovedTo rest q := by
  obtain ⟨ahead, pending, reached, length, depth, deepest⟩ := p
  rcases upcoming_eq_cons h with ⟨t', rfl, ht, rfl⟩ | ⟨stop, items, rfl, rfl, rfl⟩
  · cases ht
    exact ⟨_, rfl, ⟨rfl, rfl, rfl⟩⟩
  · exact ⟨_, rfl, ⟨rfl, rfl, rfl⟩⟩

theorem next_end (h : p.upcoming = []) :
    ∃ q, next p = .error ⟨p.length, .unexpectedEnd⟩ q := by
  obtain ⟨ahead, pending, reached, length, depth, deepest⟩ := p
  obtain ⟨rfl, rfl⟩ := upcoming_eq_nil h
  exact ⟨_, rfl⟩

theorem next_fault (h : p.upcoming = (.fault f, s) :: rest) :
    ∃ q, next p = .error ⟨s, .lexical f⟩ q := by
  obtain ⟨ahead, pending, reached, length, depth, deepest⟩ := p
  rcases upcoming_eq_cons h with ⟨t', -, ht, -⟩ | ⟨stop, items, rfl, rfl, -⟩
  · cases ht
  · exact ⟨_, rfl⟩

/-- Looking leaves what lies ahead as it is. -/
theorem upcoming_of_peek {next? : Option Token} {q : Parser} (h : peek p = .ok next? q) :
    q.upcoming = p.upcoming := by
  rcases hp : p.upcoming with _ | ⟨⟨t | f, s⟩, rest⟩
  · obtain ⟨r, hr, hmoved, -⟩ := peek_end hp
    cases hr.symm.trans h
    exact hmoved.upcoming
  · obtain ⟨r, hr, hmoved, -⟩ := peek_token hp
    cases hr.symm.trans h
    exact hmoved.upcoming.trans hp
  · obtain ⟨r, hr⟩ := peek_fault hp
    cases hr.symm.trans h

/-- The token that is taken lay ahead first of all. -/
theorem upcoming_of_next {t : Located} {q : Parser} (h : next p = .ok t q) :
    p.upcoming = t.seen :: q.upcoming := by
  rcases hp : p.upcoming with _ | ⟨⟨t | f, s⟩, rest⟩
  · obtain ⟨r, hr⟩ := next_end hp
    cases hr.symm.trans h
  · obtain ⟨r, hr, hmoved⟩ := next_token hp
    cases hr.symm.trans h
    rw [hmoved.upcoming]
    rfl
  · obtain ⟨r, hr⟩ := next_fault hp
    cases hr.symm.trans h

/-- Letting go of the token looked at takes it. -/
theorem MovedTo.drop_ahead {q : Parser} (h : p.MovedTo ((.token t, s) :: rest) q)
    (ha : q.ahead = some ⟨t, s⟩) : p.MovedTo rest { q with ahead := none } := by
  refine ⟨?_, h.depth, h.length⟩
  have hq := h.upcoming
  rw [Parser.upcoming, ha] at hq
  exact (List.cons.inj hq).2

theorem peekIs_of_peek {next? : Option Token} {q : Parser} (h : peek p = .ok next? q)
    (t : Token) : peekIs t p = .ok (next?.any fun next => next.equals t) q :=
  bind_eq_of_ok h

/-- The next token equals a symbol just if it is this symbol. -/
theorem any_equals_symbol (next? : Option Token) (s : Symbol) :
    (next?.any fun next => next.equals (.symbol s)) = (next? == some (.symbol s)) := by
  cases next? with
  | none => rfl
  | some t => rw [Option.any_some, Token.equals_symbol, Option.some_beq_some]

theorem expect_of_peek {next? : Option Token} {q : Parser} (h : peek p = .ok next? q)
    (t : Token) (wanted : String) :
    expect t wanted p =
      if next?.any fun next => next.equals t then .ok () { q with ahead := none }
      else .error ⟨(q.ahead.map Located.start).getD q.length, .expected wanted⟩ q := by
  refine (bind_eq_of_ok (peekIs_of_peek h t)).trans ?_
  split <;> rfl

theorem expect_symbol {symbol : Symbol} {wanted : String}
    (h : p.upcoming = (.token (.symbol symbol), s) :: rest) :
    ∃ q, expect (.symbol symbol) wanted p = .ok () q ∧ p.MovedTo rest q := by
  obtain ⟨q, hpeek, hq, ha⟩ := peek_token h
  refine ⟨_, ?_, (h ▸ hq).drop_ahead ha⟩
  rw [expect_of_peek hpeek, if_pos (by simp)]

theorem expect_other {symbol : Symbol} {wanted : String}
    (h : p.upcoming = (.token t, s) :: rest) (ht : t ≠ .symbol symbol) :
    ∃ q, expect (.symbol symbol) wanted p = .error ⟨s, .expected wanted⟩ q := by
  obtain ⟨q, hpeek, hq, ha⟩ := peek_token h
  refine ⟨q, ?_⟩
  rw [expect_of_peek hpeek, if_neg (by simpa using ht), ha]
  rfl

theorem expect_end {wanted : String} (h : p.upcoming = []) :
    ∃ q, expect t wanted p = .error ⟨p.length, .expected wanted⟩ q := by
  obtain ⟨q, hpeek, hq, ha, -⟩ := peek_end h
  refine ⟨q, ?_⟩
  rw [expect_of_peek hpeek, if_neg (by simp), ha, hq.length]
  rfl

theorem expect_fault {wanted : String} (h : p.upcoming = (.fault f, s) :: rest) :
    ∃ q, expect t wanted p = .error ⟨s, .lexical f⟩ q := by
  obtain ⟨q, hpeek⟩ := peek_fault h
  exact ⟨q, bind_eq_of_error (bind_eq_of_error hpeek)⟩

/-- Looking for a symbol is looking at the next token. -/
theorem peekIs_bind {α : Type} (s : Symbol) (k : Bool → Parse α) :
    (peekIs (.symbol s) >>= k) = peek >>= fun next? => k (next? == some (.symbol s)) := by
  funext p
  simp only [← any_equals_symbol]
  change EStateM.bind (EStateM.bind peek _) k p = EStateM.bind peek _ p
  unfold EStateM.bind
  cases peek p <;> rfl

/-- Looking for an operator is looking at the next token. -/
theorem peekOperator_bind {α : Type} (l : Level) (k : Option Operator → Parse α) :
    (peekOperator l >>= k) =
      peek >>= fun next? => k (next?.bind fun t => (Operator.ofToken? t).filter (·.level = l)) := by
  funext p
  change EStateM.bind (EStateM.bind peek _) k p = EStateM.bind peek _ p
  unfold EStateM.bind
  cases peek p <;> rfl

/-! ### Nesting -/

/-- The state in which a rule is run that a parser enters. -/
def entered (p : Parser) : Parser :=
  { p with depth := p.depth + 1, deepest := max p.deepest (p.depth + 1) }

/-- The state that a parser is left in when it leaves a rule. -/
def left (p : Parser) : Parser := { p with depth := p.depth - 1 }

section Descend

variable {α : Type} {rule : Parse α} {ceiling : Nat} {p q : Parser}

theorem descend_refused (h : ceiling ≤ p.depth + 1) :
    descend ceiling rule p = .error ⟨p.position, .maximumDepth⟩ { p with depth := p.depth + 1 } :=
  if_pos h

theorem descend_of_ok {x : α} (h : p.depth + 1 < ceiling) (hr : rule p.entered = .ok x q) :
    descend ceiling rule p = .ok x q.left := by
  rw [descend, if_neg (Nat.not_le_of_lt h)]
  rw [entered] at hr
  rw [hr]
  rfl

theorem descend_of_error {e : SyntaxError} (h : p.depth + 1 < ceiling)
    (hr : rule p.entered = .error e q) : descend ceiling rule p = .error e q.left := by
  rw [descend, if_neg (Nat.not_le_of_lt h)]
  rw [entered] at hr
  rw [hr]
  rfl

/-- A rule is refused at the ceiling and run one level deeper below it. -/
theorem ensures_descend {done : α → Parser → Prop} {failed : SyntaxError → Prop}
    (hrefused : ceiling ≤ p.depth + 1 → failed ⟨p.position, .maximumDepth⟩)
    (hrule : p.depth + 1 < ceiling → Parse.Ensures rule p.entered
      (fun x q => done x q.left) fun e _ => failed e) :
    Parse.Ensures (descend ceiling rule) p done fun e _ => failed e := by
  rcases Nat.lt_or_ge (p.depth + 1) ceiling with hc | hc
  · have h := hrule hc
    cases hr : rule p.entered with
    | ok x q => exact .of_eq_ok (descend_of_ok hc hr) (h.done_of_ok hr)
    | error e q => exact .of_eq_error (descend_of_error hc hr) (h.failed_of_error hr)
  · exact .of_eq_error (descend_refused hc) (hrefused hc)

end Descend

end Parser

/-- Enters a rule, as the body of another rule does it. -/
def Rule.enter (ceiling fuel : Nat) (r : Rule) : Parse Formula :=
  Parser.descend ceiling (run ceiling fuel r)

end SheetFormula
