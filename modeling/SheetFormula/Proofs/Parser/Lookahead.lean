import Mathlib.Data.List.Forall2
import SheetFormula.Proofs.Parser.Moves
import SheetFormula.Proofs.Token.Items

/-!
# One token of lookahead

Whoever reads tokens from a parser may look at the next one, ask whether it is a given one, take it,
or demand a given one, in any order and as often as desired, also after errors
(`Parser.Request`). Every such request comes to one of five steps of the parser (`Parser.Step`), and
whatever the requests are, the items of the source keep their places: each of them is used up by one
reply, is the token that is held, or waits to be scanned (`Parser.StandsBehind`). So no item is lost
or handed out twice, and the place where the parser stands moves on only
(`Parser.lookahead_lossless`).
-/

namespace SheetFormula

open SheetFormula.Sequence

namespace Parser

/-! ### Requests and replies -/

/-- What is **requested** of a parser by who reads tokens from it. -/
inductive Request where
  | peek
  | peekIs (t : Token)
  | next
  | expect (t : Token) (wanted : String)
  deriving DecidableEq

/-- The **reply** to a request. -/
inductive Reply where
  /-- The next token was looked at. -/
  | seen (next? : Option Token)
  /-- The next token was compared. -/
  | compared (same : Bool)
  /-- The next token was taken. -/
  | taken (t : Located)
  /-- The next token equals the one demanded, and was taken. -/
  | matched (t : Token)
  | failed (e : SyntaxError)
  deriving DecidableEq

namespace Request

/-- The action that answers a request. -/
def action : Request → Parse Reply
  | peek => do return .seen (← Parser.peek)
  | peekIs t => do return .compared (← Parser.peekIs t)
  | next => do return .taken (← Parser.next)
  | expect t wanted => do
    Parser.expect t wanted
    return .matched t

/-- The reply to a request, and the parser after it. -/
def serve (r : Request) (p : Parser) : Reply × Parser :=
  match r.action p with
  | .ok reply q => (reply, q)
  | .error e q => (.failed e, q)

end Request

/-- The replies to requests one after the other, and the parser after them. -/
def serveAll : List Request → Parser → List Reply × Parser
  | [], p => ([], p)
  | r :: rs, p =>
    let (reply, q) := r.serve p
    let (replies, q') := serveAll rs q
    (reply :: replies, q')

namespace Reply

/-- Whether a reply **uses up** an item: the token that it hands out, a token equal to the one
demanded, or the place where no token can be read that it reports. -/
def Uses : Reply → Item → Prop
  | taken t, i => i.seen = t.seen
  | matched t, i => ∃ found, i.reading = .token found ∧ found.equals t = true
  | failed e, i => ∃ f, i.reading = .fault f ∧ e = ⟨i.start, .lexical f⟩
  | seen _, _ | compared _, _ => False

/-- Whether a reply is one of those that use up an item. -/
def isUse : Reply → Bool
  | taken _ | matched _ | failed ⟨_, .lexical _⟩ => true
  | _ => false

/-- Whether a reply hands out a token or has matched one. -/
def takesToken : Reply → Bool
  | taken _ | matched _ => true
  | _ => false

theorem isUse_of_takesToken {reply : Reply} (h : reply.takesToken = true) :
    reply.isUse = true := by
  cases reply with
  | taken _ | matched _ => rfl
  | seen _ | compared _ | failed _ => cases h

end Reply

/-! ### The steps of a parser -/

/-- The steps that a reply comes with. -/
inductive Step (reply : Reply) : Parser → Parser → Prop
  /-- The token that is held stays. -/
  | stay {p : Parser} {t : Located} (held : p.ahead = some t) (idle : reply.isUse = false) :
      Step reply p p
  /-- The next item is scanned, and its token is held. -/
  | hold {p : Parser} {i : Item} {items : List Item} {t : Token} (bare : p.ahead = none)
      (next : p.pending = i :: items) (token : i.reading = .token t)
      (idle : reply.isUse = false) :
      Step reply p { p with ahead := some ⟨t, i.start⟩, pending := items, reached := i.stop }
  /-- The token that is held is used. -/
  | release {p : Parser} {t : Located} (held : p.ahead = some t) (use : reply.takesToken = true)
      (uses : ∀ i : Item, i.seen = t.seen → reply.Uses i) : Step reply p { p with ahead := none }
  /-- The next item is scanned and used. -/
  | pass {p : Parser} {i : Item} {items : List Item} (bare : p.ahead = none)
      (next : p.pending = i :: items) (use : reply.isUse = true) (uses : reply.Uses i) :
      Step reply p { p with pending := items, reached := i.stop }
  /-- The end of the source is met. -/
  | finish {p : Parser} (bare : p.ahead = none) (done : p.pending = [])
      (idle : reply.isUse = false) : Step reply p { p with reached := p.length }

variable {p q : Parser} {reply : Reply}

theorem serve_of_ok {r : Request} (h : r.action p = .ok reply q) : r.serve p = (reply, q) := by
  rw [Request.serve, h]

theorem serve_of_error {r : Request} {e : SyntaxError} (h : r.action p = .error e q) :
    r.serve p = (.failed e, q) := by
  rw [Request.serve, h]

/-- What a demand comes to, by the token that comes next. -/
theorem serve_expect {next? : Option Token} (h : peek p = .ok next? q) (t : Token)
    (wanted : String) :
    (Request.expect t wanted).serve p =
      if next?.any fun next => next.equals t then (.matched t, { q with ahead := none })
      else (.failed ⟨(q.ahead.map Located.start).getD q.length, .expected wanted⟩, q) := by
  have hexpect := expect_of_peek h t wanted
  split at hexpect <;> rename_i ht
  · rw [if_pos ht]
    exact serve_of_ok (bind_eq_of_ok hexpect)
  · rw [if_neg ht]
    exact serve_of_error (bind_eq_of_error hexpect)

/-- **Every request comes to one step.** -/
theorem step_serve (r : Request) (p : Parser) : Step (r.serve p).1 p (r.serve p).2 := by
  obtain ⟨ahead, pending, reached, length, depth, deepest⟩ := p
  rcases ahead with _ | t
  · rcases pending with _ | ⟨⟨t | f, start, stop⟩, items⟩
    · cases r <;> exact .finish rfl rfl rfl
    · cases r with
      | peek | peekIs _ => exact .hold rfl rfl rfl rfl
      | next => exact .pass rfl rfl rfl rfl
      | expect t' wanted =>
        rw [serve_expect rfl]
        split
        · next ht => exact .pass (i := ⟨.token t, start, stop⟩) rfl rfl rfl ⟨t, rfl, ht⟩
        · exact .hold rfl rfl rfl rfl
    · cases r <;> exact .pass rfl rfl rfl ⟨f, rfl, rfl⟩
  · cases r with
    | peek | peekIs _ => exact .stay rfl rfl
    | next => exact .release rfl rfl fun _ h => h
    | expect t' wanted =>
      rw [serve_expect rfl]
      split
      · next ht =>
        exact .release rfl rfl fun i hi => ⟨t.token, congrArg Prod.fst hi, ht⟩
      · exact .stay rfl rfl

/-! ### Where the items are -/

/-- A parser **stands behind** items of its source: all others are the one whose token is held and
those that wait to be scanned. It has reached the end of what has been scanned. -/
structure StandsBehind (source : String) (used : List Item) (p : Parser) : Prop where
  items : ∃ held, Item.list source = used ++ held ++ p.pending ∧
    held.map Item.seen = p.ahead.toList.map Located.seen
  ahead_le : ∀ t ∈ p.ahead, t.start ≤ p.reached
  le_pending : ∀ i ∈ p.pending, p.reached ≤ i.start
  reached_le : p.reached ≤ p.length
  length_eq : p.length = Text.byteLength source.toList

variable {source : String} {used : List Item} {i : Item} {items : List Item}

theorem standsBehind_start (source : String) : StandsBehind source [] (start source) where
  items := ⟨[], rfl, rfl⟩
  ahead_le t ht := absurd ht (Option.not_mem_none t)
  le_pending _ _ := Nat.zero_le _
  reached_le := Nat.zero_le _
  length_eq := rfl

theorem StandsBehind.position_le (h : StandsBehind source used p) :
    p.position ≤ p.reached := by
  unfold position
  split
  · next t ht => exact h.ahead_le t ht
  · exact Nat.le_refl _

/-- Without a token in hand, the next item is the first that has not been used. -/
theorem StandsBehind.list_eq (h : StandsBehind source used p) (bare : p.ahead = none)
    (next : p.pending = i :: items) : Item.list source = used ++ i :: items := by
  obtain ⟨held, hlist, hheld⟩ := h.items
  rw [bare] at hheld
  obtain rfl := List.map_eq_nil_iff.mp hheld
  rwa [List.append_nil, next] at hlist

/-- Scanning an item moves the parser on, and not beyond the items that are left. -/
theorem StandsBehind.scan (h : StandsBehind source used p) (bare : p.ahead = none)
    (next : p.pending = i :: items) :
    p.reached ≤ i.start ∧ i.start < i.stop ∧ i.stop ≤ p.length ∧ ∀ j ∈ items, i.stop ≤ j.start := by
  have hlist := h.list_eq bare next
  have hmem : i ∈ Item.list source := by
    rw [hlist]
    exact List.mem_append_right _ (List.mem_cons_self ..)
  have hordered := Item.pairwise_stop_le_start 0 source.toList
  rw [show Item.listFrom 0 0 source.toList = used ++ i :: items from hlist,
    List.pairwise_append] at hordered
  refine ⟨h.le_pending i ?_, Item.start_lt_stop hmem, ?_, (List.pairwise_cons.mp hordered.2.1).1⟩
  · rw [next]
    exact List.mem_cons_self ..
  · rw [h.length_eq]
    exact Item.stop_le_of_mem_list hmem

/-- The first item that is not used stands where the token in hand does. -/
theorem StandsBehind.exists_held {t : Located} (h : StandsBehind source used p)
    (held : p.ahead = some t) :
    ∃ i, Item.list source = used ++ i :: p.pending ∧ i.seen = t.seen := by
  obtain ⟨items, hlist, hitems⟩ := h.items
  rw [held] at hitems
  obtain ⟨i, rfl, hi⟩ := List.map_eq_singleton_iff.mp hitems
  rw [List.append_assoc] at hlist
  exact ⟨i, hlist, hi⟩

/-- **A step uses up the next item or none.** -/
theorem StandsBehind.step (h : StandsBehind source used p) (hstep : Step reply p q) :
    ∃ more, StandsBehind source (used ++ more) q ∧
      List.Forall₂ Reply.Uses ([reply].filter Reply.isUse) more := by
  have hidle : reply.isUse = false → List.Forall₂ Reply.Uses ([reply].filter Reply.isUse) [] := by
    intro hidle
    rw [List.filter_singleton, hidle]
    exact .nil
  have huse : ∀ i, reply.isUse = true → reply.Uses i →
      List.Forall₂ Reply.Uses ([reply].filter Reply.isUse) [i] := by
    intro i huse huses
    rw [List.filter_singleton, huse]
    exact .cons huses .nil
  cases hstep with
  | stay held idle => exact ⟨[], (List.append_nil used).symm ▸ h, hidle idle⟩
  | @hold i items t bare next token idle =>
    obtain ⟨-, hlt, hle, hlater⟩ := h.scan bare next
    refine ⟨[], ?_, hidle idle⟩
    rw [List.append_nil]
    refine ⟨⟨[i], ?_, ?_⟩, ?_, hlater, hle, h.length_eq⟩
    · rw [List.append_assoc]
      exact h.list_eq bare next
    · simp only [List.map_cons, List.map_nil, Option.toList_some, Item.seen, Located.seen, token]
    · intro t ht
      cases ht
      exact Nat.le_of_lt hlt
  | @release t held use uses =>
    obtain ⟨i, hlist, hi⟩ := h.exists_held held
    refine ⟨[i], ⟨⟨[], ?_, rfl⟩, ?_, h.le_pending, h.reached_le, h.length_eq⟩, ?_⟩
    · rw [List.append_nil, List.append_assoc]
      exact hlist
    · exact fun t ht => absurd ht (Option.not_mem_none t)
    · exact huse i (Reply.isUse_of_takesToken use) (uses i hi)
  | @pass i items bare next use uses =>
    obtain ⟨-, hlt, hle, hlater⟩ := h.scan bare next
    refine ⟨[i], ⟨⟨[], ?_, ?_⟩, ?_, hlater, hle, h.length_eq⟩, huse i use uses⟩
    · rw [List.append_nil, List.append_assoc]
      exact h.list_eq bare next
    · dsimp only
      rw [bare]
      rfl
    · intro t ht
      rw [bare] at ht
      cases ht
  | finish bare done idle =>
    refine ⟨[], ?_, hidle idle⟩
    rw [List.append_nil]
    refine ⟨h.items, ?_, ?_, Nat.le_refl _, h.length_eq⟩
    · intro t ht
      rw [bare] at ht
      cases ht
    · intro i hi
      rw [done] at hi
      cases hi

/-- A step does not go back. -/
theorem StandsBehind.position_le_step (h : StandsBehind source used p) (hstep : Step reply p q) :
    p.position ≤ q.position := by
  cases hstep with
  | stay held idle => exact Nat.le_refl _
  | @hold i items t bare next token idle =>
    obtain ⟨hstart, -⟩ := h.scan bare next
    exact Nat.le_trans h.position_le hstart
  | release held use uses => exact h.position_le
  | @pass i items bare next use uses =>
    obtain ⟨hstart, hlt, -⟩ := h.scan bare next
    refine Nat.le_trans h.position_le ?_
    unfold position
    rw [bare]
    dsimp only
    omega
  | finish bare done idle =>
    refine Nat.le_trans h.position_le ?_
    unfold position
    rw [bare]
    exact h.reached_le

/-- However many requests there are, they use up so many items from the front. -/
theorem StandsBehind.serveAll (h : StandsBehind source used p) (requests : List Request) :
    ∃ more, StandsBehind source (used ++ more) (p.serveAll requests).2 ∧
      List.Forall₂ Reply.Uses ((p.serveAll requests).1.filter Reply.isUse) more := by
  induction requests generalizing used p with
  | nil => exact ⟨[], (List.append_nil used).symm ▸ h, .nil⟩
  | cons r requests ih =>
    obtain ⟨first, hfirst, huses⟩ := h.step (step_serve r p)
    obtain ⟨more, hmore, hall⟩ := ih hfirst
    refine ⟨first ++ more, ?_, ?_⟩
    · rw [← List.append_assoc]
      exact hmore
    · have happend : List.Forall₂ Reply.Uses
          ([(r.serve p).1].filter Reply.isUse ++
            (Parser.serveAll requests (r.serve p).2).1.filter Reply.isUse) (first ++ more) :=
        List.rel_append huses hall
      rwa [← List.filter_append] at happend

/-! ### Tokens that are left alone -/

/-- A reply **keeps the tokens** that lie ahead if nothing is gone, or only the place where no token
can be read that it reports. -/
def KeepsTokens (p : Parser) (reply : Reply) (q : Parser) : Prop :=
  q.upcoming = p.upcoming ∨
    ∃ f s, reply = .failed ⟨s, .lexical f⟩ ∧ p.upcoming = (.fault f, s) :: q.upcoming

/-- Whether a request, with its reply, is one to look at tokens, or a demand that is not met. -/
def Request.TakesNothing : Request → Reply → Prop
  | peek, _ | peekIs _, _ | expect _ _, .failed _ => True
  | _, _ => False

theorem Request.TakesNothing.takesToken_eq {r : Request} (h : r.TakesNothing (r.serve p).1) :
    (r.serve p).1.takesToken = false := by
  cases r with
  | peek =>
    cases hp : Parser.peek p with
    | ok next? q => rw [serve_of_ok (bind_eq_of_ok hp)]; rfl
    | error e q => rw [serve_of_error (bind_eq_of_error hp)]; rfl
  | peekIs t =>
    cases hp : Parser.peekIs t p with
    | ok same q => rw [serve_of_ok (bind_eq_of_ok hp)]; rfl
    | error e q => rw [serve_of_error (bind_eq_of_error hp)]; rfl
  | next => cases h
  | expect t wanted =>
    cases hreply : ((expect t wanted).serve p).1 with
    | failed e => rfl
    | seen _ | compared _ | taken _ | matched _ =>
      rw [hreply] at h
      cases h

theorem Step.keepsTokens (hstep : Step reply p q) (h : reply.takesToken = false) :
    KeepsTokens p reply q := by
  cases hstep with
  | stay held idle => exact .inl rfl
  | @hold i items t bare next token idle =>
    refine .inl ?_
    rw [upcoming, upcoming, bare, next]
    simp only [Option.toList_some, Option.toList_none, List.map_cons, List.map_nil,
      List.nil_append, List.cons_append, Item.seen, Located.seen, token]
  | release held use uses =>
    rw [h] at use
    cases use
  | @pass i items bare next use uses =>
    cases reply with
    | failed e =>
      obtain ⟨f, hreading, rfl⟩ := uses
      refine .inr ⟨f, i.start, rfl, ?_⟩
      rw [upcoming, upcoming, bare, next, List.map_cons, Item.seen, hreading]
      rfl
    | seen _ | compared _ => cases use
    | taken _ | matched _ => cases h
  | finish bare done idle => exact .inl rfl

/-! ### The whole source -/

/-- **Lookahead neither loses nor duplicates an item.** After any requests, in any order and with
errors among them, the replies have used up the first items of the source one by one, and of the
others at most one has been scanned, the token that is held. The next request, whatever it is, does
not take the parser back, and the parser does not stand behind the end of the source. A request to
look at tokens, or a demand that is not met, leaves all tokens where they are. -/
theorem lookahead_lossless (source : String) (requests : List Request) :
    let replies := (serveAll requests (start source)).1
    let p := (serveAll requests (start source)).2
    (∃ used held, Item.list source = used ++ held ++ p.pending ∧
      List.Forall₂ Reply.Uses (replies.filter Reply.isUse) used ∧
      held.length ≤ 1 ∧ held.map Item.seen = p.ahead.toList.map Located.seen) ∧
    p.position ≤ Text.byteLength source.toList ∧
    ∀ r : Request, p.position ≤ (r.serve p).2.position ∧
      (r.TakesNothing (r.serve p).1 → KeepsTokens p (r.serve p).1 (r.serve p).2) := by
  intro replies p
  obtain ⟨used, hbehind, huses⟩ := (standsBehind_start source).serveAll requests
  rw [List.nil_append] at hbehind
  obtain ⟨held, hlist, hheld⟩ := hbehind.items
  have hlength : held.length ≤ 1 := by
    have hlen := congrArg List.length hheld
    rw [List.length_map, List.length_map] at hlen
    rw [hlen]
    cases p.ahead with
    | none => exact Nat.zero_le 1
    | some t => exact Nat.le_refl 1
  refine ⟨⟨used, held, hlist, huses, hlength, hheld⟩, ?_, fun r => ⟨?_, fun hr => ?_⟩⟩
  · rw [← hbehind.length_eq]
    exact Nat.le_trans hbehind.position_le hbehind.reached_le
  · exact hbehind.position_le_step (step_serve r p)
  · exact (step_serve r p).keepsTokens hr.takesToken_eq

/-- In `0 A $ +` the zero meets a demand for the other one, and the look at what follows the name
reports `$` and passes it; a demand for a minus sign is not met behind it. -/
theorem lookahead_lossless_fault :
    let negativeZero : Token := .number (.zero true)
    let requests : List Request :=
      [.expect (.symbol .plus) "'+'", .expect negativeZero "zero", .next, .peek]
    let p := (serveAll requests (start "0 A $ +")).2
    let demand : Request := .expect (.symbol .minus) "'-'"
    (serveAll requests (start "0 A $ +")).1 = [.failed ⟨0, .expected "'+'"⟩,
      .matched negativeZero, .taken ⟨.name "A", 2⟩,
      .failed ⟨4, .lexical (.unknownCharacter '$')⟩] ∧
    (demand.serve p).1 = .failed ⟨6, .expected "'-'"⟩ ∧
    KeepsTokens p (demand.serve p).1 (demand.serve p).2 ∧ p.position ≤ 7 := by
  intro negativeZero requests p demand
  have hfailed : (demand.serve p).1 = .failed ⟨6, .expected "'-'"⟩ := by decide +kernel
  obtain ⟨-, hposition, hnext⟩ := lookahead_lossless "0 A $ +" requests
  have hkeeps : demand.TakesNothing (demand.serve p).1 →
      KeepsTokens p (demand.serve p).1 (demand.serve p).2 := (hnext demand).2
  rw [hfailed] at hkeeps ⊢
  exact ⟨by decide +kernel, rfl, hkeeps trivial, hposition⟩

end Parser

end SheetFormula
