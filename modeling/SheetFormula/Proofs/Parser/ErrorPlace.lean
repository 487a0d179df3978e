import SheetFormula.Proofs.Formula.Canonical
import SheetFormula.Proofs.Parser.Language

/-!
# Where a parse stops

A syntax error stands at the first place where the source stops being a formula. The tokens before
it begin a program, and the place itself is one of three: the first item that is no token, the end
of a source whose tokens are no program, or a token that no program has behind the ones before it
(`SyntaxError.StopsAt`). The ceiling is the one cause that is not tied to such a place.

That no program goes on there is a matter of what a run depends on. A failure is the same wherever
the same tokens and the same next one lie ahead (`Parse.FailsAfter`), but on the tokens of a program
only the ceiling could fail.

That some program goes on from there is shown by a derivation. Its further tokens need not be tokens
of any source, but they can be exchanged for such tokens (`Derivation.exists_respelled`).
-/

namespace SheetFormula

open SheetFormula.Parser SheetFormula.Parse SheetFormula.Sequence

/-! ### Exchanging tokens -/

namespace Token

/-- A token that can be spelled in the place of one that cannot. -/
def respelled (t : Token) : Token :=
  if t.Spellable then t
  else
    match t with
    | number _ => .number (.zero false)
    | name _ => .name "A"
    | t => t

theorem spellable_respelled (t : Token) : t.respelled.Spellable := by
  unfold respelled
  split
  · assumption
  · cases t with
    | number x => exact ⟨rfl, rfl⟩
    | name s => exact show IsIdentifier "A" by decide +kernel
    | text s | symbol s => trivial

theorem respelled_of_spellable {t : Token} (h : t.Spellable) : t.respelled = t := if_pos h

theorem respelled_symbol (s : Symbol) : (symbol s).respelled = symbol s := if_pos trivial

theorem respelled_text (s : String) : (text s).respelled = text s := if_pos trivial

theorem exists_respelled_number (x : Binary64) : ∃ y, (number x).respelled = number y := by
  by_cases h : (number x).Spellable
  · exact ⟨x, if_pos h⟩
  · exact ⟨.zero false, if_neg h⟩

theorem exists_respelled_name (s : String) : ∃ s', (name s).respelled = name s' ∧
    (Form.ofName? s = none → Form.ofName? s' = none) := by
  by_cases h : (name s).Spellable
  · exact ⟨s, if_pos h, id⟩
  · exact ⟨"A", if_neg h, fun _ => by decide⟩

theorem respelled_form (form : Form) : (name form.name).respelled = name form.name :=
  respelled_of_spellable form.isIdentifier_name

end Token

mutual

/-- **Every derivation has one like it of tokens that can be spelled.** -/
theorem Derivation.exists_respelled : {r : Rule} → (d : Derivation r) →
    ∃ d' : Derivation r, d'.tokens = d.tokens.map Token.respelled
  | _, .program body => by
    obtain ⟨b, hb⟩ := body.exists_respelled
    exact ⟨.program b, hb⟩
  | _, .operand left => by
    obtain ⟨l, hl⟩ := left.exists_respelled
    exact ⟨.operand l, hl⟩
  | _, .binary op hlevel left right => by
    obtain ⟨l, hl⟩ := left.exists_respelled
    obtain ⟨r, hr⟩ := right.exists_respelled
    exact ⟨.binary op hlevel l r, by simp [Derivation.tokens, hl, hr, Token.respelled_symbol]⟩
  | _, .group inner => by
    obtain ⟨i, hi⟩ := inner.exists_respelled
    exact ⟨.group i, by simp [Derivation.tokens, hi, Token.respelled_symbol]⟩
  | _, .negative x => by
    obtain ⟨y, hy⟩ := Token.exists_respelled_number x
    exact ⟨.negative y, by simp [Derivation.tokens, hy, Token.respelled_symbol]⟩
  | _, .number x => by
    obtain ⟨y, hy⟩ := Token.exists_respelled_number x
    exact ⟨.number y, by simp [Derivation.tokens, hy]⟩
  | _, .text s => ⟨.text s, by simp [Derivation.tokens, Token.respelled_text]⟩
  | _, .reference name => by
    obtain ⟨name', hname, -⟩ := Token.exists_respelled_name name
    exact ⟨.reference name', by simp [Derivation.tokens, hname]⟩
  | _, .conditional condition onTrue onFalse => by
    obtain ⟨c, hc⟩ := condition.exists_respelled
    obtain ⟨t, ht⟩ := onTrue.exists_respelled
    obtain ⟨f, hf⟩ := onFalse.exists_respelled
    refine ⟨.conditional c t f, ?_⟩
    simp [Derivation.tokens, hc, ht, hf, Token.respelled_symbol, Token.respelled_form]
  | _, .constant b =>
    ⟨.constant b, by simp [Derivation.tokens, Token.respelled_symbol, Token.respelled_form]⟩
  | _, .negation operand => by
    obtain ⟨o, ho⟩ := operand.exists_respelled
    refine ⟨.negation o, ?_⟩
    simp [Derivation.tokens, ho, Token.respelled_symbol, Token.respelled_form]
  | _, .junction kind operands => by
    obtain ⟨os, hos⟩ := operands.exists_respelled
    refine ⟨.junction kind os, ?_⟩
    simp [Derivation.tokens, hos, Token.respelled_symbol, Token.respelled_form]
  | _, .bareCall name free => by
    obtain ⟨name', hname, hfree⟩ := Token.exists_respelled_name name
    exact ⟨.bareCall name' (hfree free), by simp [Derivation.tokens, hname, Token.respelled_symbol]⟩
  | _, .call name free operands => by
    obtain ⟨name', hname, hfree⟩ := Token.exists_respelled_name name
    obtain ⟨os, hos⟩ := operands.exists_respelled
    refine ⟨.call name' (hfree free) os, ?_⟩
    simp [Derivation.tokens, hname, hos, Token.respelled_symbol]

theorem Operands.exists_respelled :
    (os : Operands) → ∃ os' : Operands, os'.tokens = os.tokens.map Token.respelled
  | .last operand => by
    obtain ⟨o, ho⟩ := operand.exists_respelled
    exact ⟨.last o, by simp [Operands.tokens, ho, Token.respelled_symbol]⟩
  | .more operand others => by
    obtain ⟨o, ho⟩ := operand.exists_respelled
    obtain ⟨os, hos⟩ := others.exists_respelled
    exact ⟨.more o os, by simp [Operands.tokens, ho, hos, Token.respelled_symbol]⟩

end

/-- **Tokens of a source that begin a program begin one that is parsed**: they can be completed to
the tokens of a source that is a formula. -/
theorem Rule.Begins.exists_parse {ts : List Token} (h : Rule.program.Begins ts)
    (hts : ∀ t ∈ ts, t.Spellable) :
    ∃ us source, IsProgram (ts ++ us) ∧ Lexes source (ts ++ us) ∧
      ∀ m, 5 + 4 * (ts ++ us).length < m → ∃ f, Formula.parse m source = .ok f := by
  obtain ⟨d, us, hus⟩ := h
  obtain ⟨d', hd'⟩ := d.exists_respelled
  have hkept : ts.map Token.respelled = ts.map id :=
    List.map_congr_left fun t ht => Token.respelled_of_spellable (hts t ht)
  have htokens : d'.tokens = ts ++ us.map Token.respelled := by
    rw [hd', ← hus, List.map_append, hkept, List.map_id]
  have hspellable : ∀ t ∈ d'.tokens, t.Spellable := by
    intro t ht
    rw [hd'] at ht
    obtain ⟨t', -, rfl⟩ := List.mem_map.mp ht
    exact t'.spellable_respelled
  obtain ⟨cs, hcs⟩ := Spells.exists_text hspellable
  have hlexes : Lexes (String.ofList cs) d'.tokens := hcs.lexes
  refine ⟨us.map Token.respelled, String.ofList cs, ?_⟩
  rw [← htokens]
  exact ⟨⟨d', rfl⟩, hlexes, fun m hm => ⟨_, Formula.parse_of_length_lt hlexes hm⟩⟩

/-! ### Runs on other sources -/

/-- A parser at the start of a source that is read as given. -/
def Parser.before (seen : List (Reading × Nat)) : Parser where
  ahead := none
  pending := seen.map fun s => ⟨s.1, s.2, s.2⟩
  reached := 0
  length := 0
  depth := 0
  deepest := 0

theorem Parser.upcoming_before (seen : List (Reading × Nat)) : (before seen).upcoming = seen := by
  simp only [upcoming, before, Option.toList_none, List.map_nil, List.nil_append, List.map_map]
  exact List.map_id' seen

/-- **A failure excludes programs.** Where a parse fails for another cause than the ceiling, no
program has the tokens taken in front and goes on with what comes next there. -/
theorem Parse.FailsAfter.not_isProgram {m : Nat} {p : Parser} {taken : List Located}
    {rest : List (Reading × Nat)} {e : SyntaxError}
    (h : (Rule.program.enter m (Rule.fuelAt m 1)).FailsAfter p taken rest e) (hp : p.depth = 0)
    (he : e.fault ≠ .maximumDepth) (rest' : List (Reading × Nat)) (us : List Token)
    (hhead : rest'.head? = rest.head?) (hus : rest'.map Prod.fst = us.map Reading.token) :
    ¬ IsProgram (taken.map Located.token ++ us) := by
  rintro ⟨d, hd⟩
  -- the same failure on a source that is read as the tokens of the program
  let p' := before (taken.map Located.seen ++ rest')
  obtain ⟨e', q, hrun, he'⟩ :=
    h.elsewhere p' rest' (upcoming_before _) hhead hp.symm
  have hstands : p'.Stands d.tokens 0 := by
    refine ⟨?_, rfl⟩
    rw [upcoming_before, hd, List.map_append, List.map_append, hus, List.map_map, List.map_map]
    rfl
  have hdepth := ((d.follows_program hstands).of_error hrun).1
  exact he (he'.symm.trans hdepth)

/-! ### The place of an error in its source -/

/-- Whether a syntax error **stops at** its position behind the tokens `ts` of its source: at an
item that is no token, at the end, or at a token. In the last two cases no program begins with
`ts` and goes on, or ends, as the source does there. -/
inductive SyntaxError.StopsAt (source : String) (e : SyntaxError) (ts : List Token) : Prop where
  /-- The first item that is no token starts here. -/
  | fault {before after : List Item} {f : LexicalFault} {stop : Nat}
    (items : Item.list source = before ++ ⟨.fault f, e.position, stop⟩ :: after)
    (tokens : before.map Item.reading = ts.map Reading.token)
    (cause : e.fault = .lexical f)
  /-- The source ends here, too early. -/
  | ended (lexes : Lexes source ts) (position : e.position = source.utf8ByteSize)
    (cause : e.fault.FoundAt none) (stops : ¬ IsProgram ts)
  /-- A token stands here that cannot follow. -/
  | token {before after : List Item} {k : Token} {stop : Nat}
    (items : Item.list source = before ++ ⟨.token k, e.position, stop⟩ :: after)
    (tokens : before.map Item.reading = ts.map Reading.token)
    (cause : e.fault.FoundAt (some k)) (stops : ∀ us, ¬ IsProgram (ts ++ k :: us))

namespace SyntaxError.StopsAt

variable {source : String} {e : SyntaxError} {ts : List Token}

/-- An error stops at a boundary of its source. -/
theorem isBoundary (h : e.StopsAt source ts) : Text.IsBoundary source.toList e.position := by
  have key : ∀ {i : Item} {before after : List Item}, Item.list source = before ++ i :: after →
      Text.IsBoundary source.toList i.start := fun hitems =>
    (Item.start_of_mem_list (hitems ▸ List.mem_append_cons_self)).1
  cases h with
  | fault items => exact key items
  | ended _ position =>
    rw [position, ← Text.byteLength_toList]
    exact Text.isBoundary_byteLength _
  | token items => exact key items

/-- The items that start before the place of an error are the tokens behind which it stops. -/
theorem reading_before (h : e.StopsAt source ts) :
    ((Item.list source).filter (·.start < e.position)).map Item.reading = ts.map Reading.token := by
  cases h with
  | fault items tokens => rw [Item.filter_start_lt items, tokens]
  | ended lexes position =>
    rw [position, ← Text.byteLength_toList, Item.filter_start_lt_byteLength]
    exact lexes
  | token items tokens => rw [Item.filter_start_lt items, tokens]

/-- Tokens behind which an error stops are tokens that can be spelled. -/
theorem spellable (h : e.StopsAt source ts) : ∀ t ∈ ts, t.Spellable := by
  intro t ht
  have hmem : Reading.token t ∈ ts.map Reading.token := List.mem_map_of_mem ht
  rw [← h.reading_before] at hmem
  obtain ⟨i, hi, hread⟩ := List.mem_map.mp hmem
  exact Item.spellable_of_mem_list (List.mem_filter.mp hi).1 hread

end SyntaxError.StopsAt

namespace Formula

variable {m : Nat} {source : String} {e : SyntaxError}

/-- What has been taken when a parse fails begins a program, and the error stops behind it. -/
theorem exists_stopsAt (h : parse m source = .error e) (he : e.fault ≠ .maximumDepth) :
    ∃ ts, Rule.program.Begins ts ∧ e.StopsAt source ts := by
  obtain ⟨q, hrun⟩ := parse_eq_error h
  obtain ⟨taken, rest, hfails, hbegins⟩ :=
    ((Rule.scans_enter m _ .program _).failsAfter_of_error hrun).resolve_left he
  refine ⟨_, hbegins, ?_⟩
  -- the items of the source fall into those of the tokens taken and those behind them
  have hahead := hfails.ahead
  rw [upcoming_start, List.map_eq_append_iff] at hahead
  obtain ⟨before, behind, hitems, hbefore, hbehind⟩ := hahead
  have htokens : before.map Item.reading = (taken.map Located.token).map Reading.token := by
    have hreadings := congrArg (List.map Prod.fst) hbefore
    rw [List.map_map, List.map_map] at hreadings
    rw [List.map_map]
    exact hreadings
  have hstands := hfails.standsAt
  rcases behind with _ | ⟨⟨r, s, stop⟩, after⟩
  · subst hbehind
    obtain ⟨hposition, hfault⟩ := hstands
    refine .ended ?_ ?_ hfault ?_
    · rw [Lexes, hitems, List.append_nil, htokens]
    · exact hposition.trans (Text.byteLength_toList source)
    · have hno := hfails.not_isProgram rfl he [] [] rfl rfl
      rwa [List.append_nil] at hno
  · subst hbehind
    cases r with
    | fault f =>
      obtain ⟨rfl, hfault⟩ := hstands
      exact .fault hitems htokens hfault
    | token k =>
      obtain ⟨rfl, hfault⟩ := hstands
      refine .token hitems htokens hfault fun us => ?_
      refine hfails.not_isProgram rfl he ((.token k, e.position) :: us.map fun u => (.token u, 0))
        (k :: us) rfl ?_
      rw [List.map_cons, List.map_map, List.map_cons]
      rfl

/-- **A syntax error stands where the source stops being a formula.** But for the ceiling, the
position of an error is a boundary of the source; all items that start before it are tokens, some
tokens after these make a program that is parsed from a source of its own, and the error stops
behind them. -/
theorem parse_error_stops (h : parse m source = .error e) (he : e.fault ≠ .maximumDepth) :
    e.position ≤ source.utf8ByteSize ∧ Text.IsBoundary source.toList e.position ∧
      ∃ ts, ((Item.list source).filter (·.start < e.position)).map Item.reading =
          ts.map Reading.token ∧
        (∃ us completed, IsProgram (ts ++ us) ∧ Lexes completed (ts ++ us) ∧
          ∀ m', 5 + 4 * (ts ++ us).length < m' → ∃ f, parse m' completed = .ok f) ∧
        e.StopsAt source ts := by
  obtain ⟨ts, hbegins, hstops⟩ := exists_stopsAt h he
  refine ⟨?_, hstops.isBoundary, ts, hstops.reading_before, ?_, hstops⟩
  · rw [← Text.byteLength_toList]
    exact hstops.isBoundary.le_byteLength
  · exact hbegins.exists_parse hstops.spellable

theorem parse_error_stops_trailing :
    parse 12 "A B" = .error ⟨2, .trailingToken (.name "B")⟩ ∧
      (⟨2, .trailingToken (.name "B")⟩ : SyntaxError).StopsAt "A B" [.name "A"] := by
  have hitems : Item.list "A B" = [⟨.token (.name "A"), 0, 1⟩, ⟨.token (.name "B"), 2, 3⟩] := by
    decide +kernel
  have hparse : parse 12 "A B" = .error ⟨2, .trailingToken (.name "B")⟩ := by
    rw [parse_eq_match, start, hitems]
    rfl
  obtain ⟨-, -, ts, hts, -, hstops⟩ := parse_error_stops hparse (by decide)
  have htokens : ts = [.name "A"] := by
    rw [hitems] at hts
    exact (List.map_inj_right fun _ _ => Reading.token.inj).mp hts.symm
  exact ⟨hparse, htokens ▸ hstops⟩

end Formula

end SheetFormula
