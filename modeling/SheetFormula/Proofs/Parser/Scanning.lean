import SheetFormula.Proofs.Parser.Moves

/-!
# What a run of the parser depends on

A rule uses its source from left to right: the tokens that it takes and the one that comes next
settle what it does, whatever lies behind them. `Parse.Scans` is this property of an action,
together with a description of the tokens that it has taken when it yields a result (`read`), and
of the tokens before the place where it fails (`stuck`). An error names that place: the next token,
the next place where no token can be read, or the end of the source (`SyntaxError.StandsAt`). The
ceiling alone fails without a place of its own.

The property is closed under sequences of actions, and the rules of the grammar have it
(`Rule.scans_enter`): the tokens read are those of a derivation of the result, and the tokens
before the place of an error begin some derivation.
-/

namespace SheetFormula

open SheetFormula.Parser SheetFormula.Parse SheetFormula.Sequence

/-! ### The place of an error -/

/-- Whether a cause is found at the next token, or at the end if there is none. -/
def SyntaxFault.FoundAt : SyntaxFault → Option Token → Prop
  | .unexpectedToken t, next? | .trailingToken t, next? => next? = some t
  | .expected _, _ | .expectedNumber, _ => True
  | .unexpectedEnd, next? => next? = none
  | _, _ => False

/-- Whether an error **stands at** the front of what lies ahead in a source of the given length:
it is found there, and that is its position. -/
def SyntaxError.StandsAt (e : SyntaxError) (length : Nat) : List (Reading × Nat) → Prop
  | [] => e.position = length ∧ e.fault.FoundAt none
  | (.token t, s) :: _ => e.position = s ∧ e.fault.FoundAt (some t)
  | (.fault f, s) :: _ => e.position = s ∧ e.fault = .lexical f

theorem Located.seen_injective : Function.Injective Located.seen := by
  rintro ⟨t, s⟩ ⟨t', s'⟩ h
  simpa [Located.seen] using h

/-- What comes next behind two equal lists is the same if it is the same after them. -/
theorem head?_append_congr {α : Type} {l l₁ l₂ : List α} (h : l₁.head? = l₂.head?) :
    (l ++ l₁).head? = (l ++ l₂).head? := by
  rw [List.head?_append, List.head?_append, h]

/-! ### From one action to another -/

/-- An action at `p` **leads to** another one at `q`, which is left to do after the tokens `taken`.
This is so wherever these tokens lie ahead and the same comes next. -/
structure Parse.LeadsTo {α : Type} (a : Parse α) (p : Parser) (taken : List Located) (b : Parse α)
    (q : Parser) : Prop where
  ahead : p.upcoming = taken.map Located.seen ++ q.upcoming
  depth : q.depth = p.depth
  length : q.length = p.length
  eq : a p = b q
  elsewhere : ∀ p' rest, p'.upcoming = taken.map Located.seen ++ rest →
    rest.head? = q.upcoming.head? → p'.depth = p.depth → ∃ q', a p' = b q' ∧ p'.MovedTo rest q'

/-- An action **fails after** tokens with an error at what comes next, wherever these tokens lie
ahead and the same comes next. -/
structure Parse.FailsAfter {α : Type} (a : Parse α) (p : Parser) (taken : List Located)
    (rest : List (Reading × Nat)) (e : SyntaxError) : Prop where
  ahead : p.upcoming = taken.map Located.seen ++ rest
  standsAt : e.StandsAt p.length rest
  elsewhere : ∀ p' rest', p'.upcoming = taken.map Located.seen ++ rest' →
    rest'.head? = rest.head? → p'.depth = p.depth →
      ∃ e' q', a p' = .error e' q' ∧ e'.fault = e.fault

namespace Parse

variable {α β : Type} {a b c : Parse α} {f : α → Parse β} {p q r : Parser} {x : α}
  {taken taken' : List Located} {rest : List (Reading × Nat)} {e : SyntaxError}

theorem LeadsTo.trans (hab : a.LeadsTo p taken b q) (hbc : b.LeadsTo q taken' c r) :
    a.LeadsTo p (taken ++ taken') c r where
  ahead := by rw [hab.ahead, hbc.ahead, List.map_append, List.append_assoc]
  depth := hbc.depth.trans hab.depth
  length := hbc.length.trans hab.length
  eq := hab.eq.trans hbc.eq
  elsewhere p' rest hp hhead hdepth := by
    rw [List.map_append, List.append_assoc] at hp
    obtain ⟨q', haq, hq⟩ := hab.elsewhere p' _ hp
      (by rw [hbc.ahead]; exact head?_append_congr hhead) hdepth
    obtain ⟨r', hbr, hr⟩ := hbc.elsewhere q' rest hq.upcoming hhead
      (by rw [hq.depth, hdepth, hab.depth])
    exact ⟨r', haq.trans hbr, hq.trans hr⟩

/-- A sequence leads to its second action once the first one has its result. -/
theorem LeadsTo.bind (ha : a.LeadsTo p taken (pure x) q) :
    (a >>= f).LeadsTo p taken (f x) q where
  ahead := ha.ahead
  depth := ha.depth
  length := ha.length
  eq := bind_eq_of_ok ha.eq
  elsewhere p' rest hp hhead hdepth := by
    obtain ⟨q', haq, hq⟩ := ha.elsewhere p' rest hp hhead hdepth
    exact ⟨q', bind_eq_of_ok haq, hq⟩

theorem FailsAfter.of_leadsTo (hab : a.LeadsTo p taken b q)
    (hb : b.FailsAfter q taken' rest e) : a.FailsAfter p (taken ++ taken') rest e where
  ahead := by rw [hab.ahead, hb.ahead, List.map_append, List.append_assoc]
  standsAt := hab.length ▸ hb.standsAt
  elsewhere p' rest' hp hhead hdepth := by
    rw [List.map_append, List.append_assoc] at hp
    obtain ⟨q', haq, hq⟩ := hab.elsewhere p' _ hp
      (by rw [hb.ahead]; exact head?_append_congr hhead) hdepth
    obtain ⟨e', r', hbr, he⟩ := hb.elsewhere q' rest' hq.upcoming hhead
      (by rw [hq.depth, hdepth, hab.depth])
    exact ⟨e', r', haq.trans hbr, he⟩

theorem FailsAfter.bind (ha : a.FailsAfter p taken rest e) :
    (a >>= f).FailsAfter p taken rest e where
  ahead := ha.ahead
  standsAt := ha.standsAt
  elsewhere p' rest' hp hhead hdepth := by
    obtain ⟨e', q', haq, he⟩ := ha.elsewhere p' rest' hp hhead hdepth
    exact ⟨e', q', bind_eq_of_error haq, he⟩

end Parse

/-! ### Scanning -/

/-- An action **scans at** a state: it takes tokens that satisfy `read` and yields a result, or
fails after tokens that satisfy `stuck`, or is refused at the ceiling. -/
def Parse.ScansAt {α : Type} (a : Parse α) (p : Parser) (read : α → List Token → Prop)
    (stuck : List Token → Prop) : Prop :=
  Ensures a p
    (fun x q => ∃ taken, a.LeadsTo p taken (pure x) q ∧ read x (taken.map Located.token))
    fun e _ => e.fault = .maximumDepth ∨
      ∃ taken rest, a.FailsAfter p taken rest e ∧ stuck (taken.map Located.token)

/-- An action **scans** if it does so at every state. -/
def Parse.Scans {α : Type} (a : Parse α) (read : α → List Token → Prop)
    (stuck : List Token → Prop) : Prop :=
  ∀ p, a.ScansAt p read stuck

namespace Parse

variable {α β : Type} {a b : Parse α} {f : α → Parse β} {p q : Parser} {x : α}
  {taken : List Located} {read : α → List Token → Prop} {read' : β → List Token → Prop}
  {stuck stuck' : List Token → Prop}

theorem ScansAt.leadsTo_of_ok (ha : a.ScansAt p read stuck) (h : a p = .ok x q) :
    ∃ taken, a.LeadsTo p taken (Pure.pure x) q ∧ read x (taken.map Located.token) :=
  Ensures.done_of_ok ha h

theorem ScansAt.failsAfter_of_error {e : SyntaxError} (ha : a.ScansAt p read stuck)
    (h : a p = .error e q) : e.fault = .maximumDepth ∨
      ∃ taken rest, a.FailsAfter p taken rest e ∧ stuck (taken.map Located.token) :=
  Ensures.failed_of_error ha h

/-- No action puts anything in front of what lies ahead. -/
theorem ScansAt.length_le (ha : a.ScansAt p read stuck) (h : a p = .ok x q) :
    q.upcoming.length ≤ p.upcoming.length := by
  obtain ⟨taken, hleads, -⟩ := ha.leadsTo_of_ok h
  rw [hleads.ahead, List.length_append]
  exact Nat.le_add_left _ _

/-- What an action leads to goes on from the tokens taken on the way. -/
theorem ScansAt.of_leadsTo (hab : a.LeadsTo p taken b q)
    (hb : b.ScansAt q (fun x ts => read x (taken.map Located.token ++ ts))
      fun ts => stuck (taken.map Located.token ++ ts)) :
    a.ScansAt p read stuck := by
  cases hq : b q with
  | ok x r =>
    obtain ⟨taken', hleads, hts⟩ := hb.leadsTo_of_ok hq
    refine .of_eq_ok (hab.eq.trans hq) ⟨taken ++ taken', hab.trans hleads, ?_⟩
    rwa [List.map_append]
  | error e r =>
    refine .of_eq_error (hab.eq.trans hq) ?_
    rcases hb.failsAfter_of_error hq with he | ⟨taken', rest, hfails, hts⟩
    · exact .inl he
    · refine .inr ⟨taken ++ taken', rest, .of_leadsTo hab hfails, ?_⟩
      rwa [List.map_append]

theorem Scans.mono {read' : α → List Token → Prop} (ha : Scans a read stuck)
    (hread : ∀ x ts, read x ts → read' x ts) (hstuck : ∀ ts, stuck ts → stuck' ts) :
    Scans a read' stuck' := fun p =>
  Ensures.mono (ha p) (fun x _ ⟨taken, hleads, h⟩ => ⟨taken, hleads, hread x _ h⟩) fun _ _ h =>
    h.imp_right fun ⟨taken, rest, hfails, h⟩ => ⟨taken, rest, hfails, hstuck _ h⟩

theorem Scans.pure (h : read x []) : Scans (Pure.pure x) read stuck := fun _ =>
  .pure ⟨[], ⟨rfl, rfl, rfl, rfl, fun p' _ hp _ _ => ⟨p', rfl, ⟨hp, rfl, rfl⟩⟩⟩, h⟩

/-- **Sequences scan**: the second action goes on from what the first one has read. -/
theorem Scans.bind (ha : Scans a read stuck) (hstuck : ∀ ts, stuck ts → stuck' ts)
    (hf : ∀ x ts, read x ts →
      Scans (f x) (fun y us => read' y (ts ++ us)) fun us => stuck' (ts ++ us)) :
    Scans (a >>= f) read' stuck' := by
  intro p
  cases hp : a p with
  | ok x q =>
    obtain ⟨taken, hleads, hts⟩ := (ha p).leadsTo_of_ok hp
    exact .of_leadsTo hleads.bind (hf x _ hts q)
  | error e q =>
    refine .of_eq_error (bind_eq_of_error hp) ?_
    rcases (ha p).failsAfter_of_error hp with he | ⟨taken, rest, hfails, hts⟩
    · exact .inl he
    · exact .inr ⟨taken, rest, hfails.bind, hstuck _ hts⟩

end Parse

/-! ### The moves scan -/

namespace Parser

variable {α : Type} {p : Parser} {t : Token} {s : Nat} {f : LexicalFault}
  {rest : List (Reading × Nat)}

/-- Looking at the next token leads on without taking it. -/
theorem leadsTo_peek (next? : Option Token)
    (h : p.upcoming.head?.map Prod.fst = next?.map Reading.token) :
    ∃ q, peek.LeadsTo p [] (pure next?) q ∧ q.upcoming = p.upcoming := by
  have key : ∀ p' : Parser, p'.upcoming.head?.map Prod.fst = next?.map Reading.token →
      ∃ q, peek p' = .ok next? q ∧ p'.MovedTo p'.upcoming q := by
    intro p' hp'
    rcases hup : p'.upcoming with _ | ⟨⟨_ | _, s⟩, rest⟩ <;> rw [hup] at hp' <;>
      rcases next? with _ | t <;> simp at hp'
    · obtain ⟨q, hpeek, hq, -⟩ := peek_end hup
      exact ⟨q, hpeek, hq⟩
    · subst hp'
      obtain ⟨q, hpeek, hq, -⟩ := peek_token hup
      exact ⟨q, hpeek, hup ▸ hq⟩
  obtain ⟨q, hpeek, hq⟩ := key p h
  refine ⟨q, ⟨hq.upcoming.symm, hq.depth, hq.length, hpeek, ?_⟩, hq.upcoming⟩
  intro p' rest hp hhead hdepth
  obtain ⟨q', hpeek', hq'⟩ := key p' (by rw [hp, List.map_nil, List.nil_append, hhead,
    hq.upcoming, h])
  rw [List.map_nil, List.nil_append] at hp
  exact ⟨q', hpeek', hp ▸ hq'⟩

/-- Taking the next token leads on behind it. -/
theorem leadsTo_next (h : p.upcoming = (.token t, s) :: rest) :
    ∃ q, next.LeadsTo p [⟨t, s⟩] (pure ⟨t, s⟩) q := by
  obtain ⟨q, hnext, hq⟩ := next_token h
  refine ⟨q, ⟨by rw [h, hq.upcoming]; rfl, hq.depth, hq.length, hnext, ?_⟩⟩
  intro p' rest' hp _ _
  exact next_token hp

end Parser

namespace Parse

variable {α β : Type} {a b : Parse α} {f : Option Token → Parse α} {g : Located → Parse α}
  {p : Parser} {read : α → List Token → Prop} {stuck : List Token → Prop}

/-- An action scans where it fails at once, with the same cause whenever the same comes next. -/
theorem ScansAt.fail (fault : SyntaxFault) (hstuck : stuck [])
    (h : ∀ p', p'.upcoming.head? = p.upcoming.head? → ∃ e q, a p' = .error e q ∧
      e.fault = fault ∧ e.StandsAt p'.length p'.upcoming) : a.ScansAt p read stuck := by
  obtain ⟨e, q, hp, he, hstands⟩ := h p rfl
  refine .of_eq_error hp (.inr ⟨[], p.upcoming, ⟨rfl, hstands, ?_⟩, hstuck⟩)
  intro p' rest' hp' hhead _
  obtain ⟨e', q', hp'', he', -⟩ := h p' (by rw [hp', List.map_nil, List.nil_append, hhead])
  exact ⟨e', q', hp'', he'.trans he.symm⟩

/-- An action that looks first fails where no token can be read. -/
theorem ScansAt.fail_fault {fault : LexicalFault} {s : Nat} {rest : List (Reading × Nat)}
    (hstuck : stuck []) (hp : p.upcoming = (.fault fault, s) :: rest)
    (h : ∀ p' rest', p'.upcoming = (.fault fault, s) :: rest' →
      ∃ q, a p' = .error ⟨s, .lexical fault⟩ q) : a.ScansAt p read stuck := by
  refine .fail (.lexical fault) hstuck fun p' hp' => ?_
  rw [hp, List.head?_cons, List.head?_eq_some_iff] at hp'
  obtain ⟨rest', hup⟩ := hp'
  obtain ⟨q, hq⟩ := h p' rest' hup
  exact ⟨_, q, hq, rfl, by rw [hup]; exact ⟨rfl, rfl⟩⟩

/-- **Look, then take or leave**: an action may depend on the next token and then either takes it
or goes on before it. -/
theorem Scans.peek_bind (hstuck : stuck []) (hend : Scans (f none) read stuck)
    (hsome : ∀ t, Scans (f (some t)) read stuck ∨ ∃ b, f (some t) = (next >>= fun _ => b) ∧
      Scans b (fun x ts => read x (t :: ts)) fun ts => stuck (t :: ts)) :
    Scans (peek >>= f) read stuck := by
  intro p
  rcases hup : p.upcoming with _ | ⟨⟨t | fault, s⟩, rest⟩
  · obtain ⟨q, hpeek, -⟩ := leadsTo_peek (p := p) none (by rw [hup]; rfl)
    exact .of_leadsTo hpeek.bind (hend q)
  · obtain ⟨q, hpeek, hq⟩ := leadsTo_peek (p := p) (some t) (by rw [hup]; rfl)
    refine .of_leadsTo hpeek.bind ?_
    rcases hsome t with h | ⟨b, hb, h⟩
    · exact h q
    · obtain ⟨q', hnext⟩ := leadsTo_next (hq.trans hup)
      rw [hb]
      exact .of_leadsTo hnext.bind (h q')
  · exact .fail_fault hstuck hup fun p' rest' hup' => by
      obtain ⟨q, hq⟩ := peek_fault hup'
      exact ⟨q, bind_eq_of_error hq⟩

/-- **Take or refuse**: an action takes the next token and goes on, or fails at this token. -/
theorem Scans.next_bind (hstuck : stuck [])
    (hsome : ∀ t, g t = throw ⟨t.start, .unexpectedToken t.token⟩ ∨
      Scans (g t) (fun x ts => read x (t.token :: ts)) fun ts => stuck (t.token :: ts)) :
    Scans (next >>= g) read stuck := by
  intro p
  rcases hup : p.upcoming with _ | ⟨⟨t | fault, s⟩, rest⟩
  · refine .fail .unexpectedEnd hstuck fun p' hp' => ?_
    rw [hup, List.head?_nil, List.head?_eq_none_iff] at hp'
    obtain ⟨q, hq⟩ := next_end hp'
    exact ⟨_, q, bind_eq_of_error hq, rfl, by rw [hp']; exact ⟨rfl, rfl⟩⟩
  · rcases hsome ⟨t, s⟩ with h | h
    · refine .fail (.unexpectedToken t) hstuck fun p' hp' => ?_
      rw [hup, List.head?_cons, List.head?_eq_some_iff] at hp'
      obtain ⟨rest', hup'⟩ := hp'
      obtain ⟨q, hq, -⟩ := next_token hup'
      refine ⟨_, q, (bind_eq_of_ok hq).trans (by rw [h]; rfl), rfl, ?_⟩
      rw [hup']
      exact ⟨rfl, rfl⟩
    · obtain ⟨q, hnext⟩ := leadsTo_next hup
      exact .of_leadsTo hnext.bind (h q)
  · exact .fail_fault hstuck hup fun p' rest' hup' => by
      obtain ⟨q, hq⟩ := next_fault hup'
      exact ⟨q, bind_eq_of_error hq⟩

end Parse

namespace Parser

variable {α : Type} {a : Parse α} {read : α → List Token → Prop} {stuck : List Token → Prop}

/-- A required token is taken, or nothing is. -/
theorem scans_expectSymbol (s : Symbol) :
    Parse.Scans (expectSymbol s) (fun _ ts => ts = [.symbol s]) fun ts => ts = [] := by
  intro p
  rcases hup : p.upcoming with _ | ⟨⟨t | fault, start⟩, rest⟩
  · refine .fail (.expected ("'" ++ s.text ++ "'")) rfl fun p' hp' => ?_
    rw [hup, List.head?_nil, List.head?_eq_none_iff] at hp'
    obtain ⟨q, hq⟩ := expect_end hp'
    exact ⟨_, q, hq, rfl, by rw [hp']; exact ⟨rfl, trivial⟩⟩
  · by_cases ht : t = .symbol s
    · subst ht
      obtain ⟨q, hq, hmoved⟩ := expect_symbol hup
      refine .of_eq_ok hq ⟨[⟨.symbol s, start⟩], ⟨?_, hmoved.depth, hmoved.length, hq, ?_⟩, rfl⟩
      · rw [hup, hmoved.upcoming]
        rfl
      · exact fun p' rest' hp' _ _ => expect_symbol hp'
    · refine .fail (.expected ("'" ++ s.text ++ "'")) rfl fun p' hp' => ?_
      rw [hup, List.head?_cons, List.head?_eq_some_iff] at hp'
      obtain ⟨rest', hup'⟩ := hp'
      obtain ⟨q, hq⟩ := expect_other hup' ht
      exact ⟨_, q, hq, rfl, by rw [hup']; exact ⟨rfl, trivial⟩⟩
  · exact .fail_fault rfl hup fun p' rest' hup' => expect_fault hup'

section Descend

variable {ceiling : Nat} {p q : Parser} {taken : List Located} (hc : p.depth + 1 < ceiling)
include hc

/-- Entering a rule leads where the rule does, back at the depth before it. -/
theorem leadsTo_descend {x : α} (h : a.LeadsTo p.entered taken (pure x) q) :
    (descend ceiling a).LeadsTo p taken (pure x) q.left where
  ahead := h.ahead
  depth := congrArg (· - 1) h.depth
  length := h.length
  eq := descend_of_ok hc h.eq
  elsewhere p' rest hp' hhead hd := by
    obtain ⟨q', hq', hmoved⟩ := h.elsewhere p'.entered rest hp' hhead (congrArg (· + 1) hd)
    have hc' : p'.depth + 1 < ceiling := hd.symm ▸ hc
    exact ⟨q'.left, descend_of_ok hc' hq',
      ⟨hmoved.upcoming, congrArg (· - 1) hmoved.depth, hmoved.length⟩⟩

/-- Entering a rule fails where the rule does. -/
theorem failsAfter_descend {rest : List (Reading × Nat)} {e : SyntaxError}
    (h : a.FailsAfter p.entered taken rest e) : (descend ceiling a).FailsAfter p taken rest e where
  ahead := h.ahead
  standsAt := h.standsAt
  elsewhere p' rest' hp' hhead hd := by
    obtain ⟨e', q', hq', he⟩ := h.elsewhere p'.entered rest' hp' hhead (congrArg (· + 1) hd)
    have hc' : p'.depth + 1 < ceiling := hd.symm ▸ hc
    exact ⟨e', q'.left, descend_of_error hc' hq', he⟩

end Descend

/-- Entering a rule scans as the rule does. -/
theorem scans_descend {ceiling : Nat} (ha : Parse.Scans a read stuck) :
    Parse.Scans (descend ceiling a) read stuck := by
  intro p
  rcases Nat.lt_or_ge (p.depth + 1) ceiling with hc | hc
  · cases hr : a p.entered with
    | ok x q =>
      obtain ⟨taken, hleads, hread⟩ := (ha p.entered).leadsTo_of_ok hr
      exact .of_eq_ok (descend_of_ok hc hr) ⟨taken, leadsTo_descend hc hleads, hread⟩
    | error e q =>
      refine .of_eq_error (descend_of_error hc hr) ?_
      rcases (ha p.entered).failsAfter_of_error hr with he | ⟨taken, rest, hfails, hstuck⟩
      · exact .inl he
      · exact .inr ⟨taken, rest, failsAfter_descend hc hfails, hstuck⟩
  · exact .of_eq_error (descend_refused hc) (.inl rfl)

end Parser

end SheetFormula
