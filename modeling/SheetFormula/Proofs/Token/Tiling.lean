import Mathlib.Logic.Function.Iterate
import SheetFormula.Parser
import SheetFormula.Proofs.Token.Munch

/-!
# Items tile their source

Items stand one behind the other, and only white space is left out between them
(`Item.isBlank_of_not_covers`). A parser that scans again and again, whatever comes of it, meets
each item once and then the end (`Parser.pull_iterate`). Wherever it stands then, the items that are
left are those of the rest of the source, and a token is the longest that could be read there
(`Parser.items_tile`).
-/

namespace SheetFormula

namespace Item

/-! ### What no item covers -/

/-- Whether an item covers the byte at a position. -/
def Covers (i : Item) (position : Nat) : Prop := i.start ≤ position ∧ position < i.stop

variable {position : Nat} {c : Char} {cs : List Char} {i : Item}

/-- There are no more items than characters. -/
theorem length_listFrom_le (position : Nat) (cs : List Char) :
    (listFrom 0 position cs).length ≤ cs.length := by
  induction cs using cutInduction generalizing position with
  | nil => exact Nat.le_refl 0
  | blank c cs hc ih =>
    rw [listFrom_blank hc]
    exact Nat.le_succ_of_le (ih _)
  | item c cs hc ih =>
    have hremainder : (remainder c cs).length ≤ cs.length := by
      rw [remainder, List.length_drop]
      exact Nat.sub_le ..
    rw [listFrom_lexeme hc, List.length_cons, List.length_cons]
    exact Nat.succ_le_succ (Nat.le_trans (ih _) hremainder)

/-- **Only white space is left out.** -/
theorem isBlank_of_not_covers {before after : List Char} (h : cs = before ++ c :: after)
    (hcovers : ∀ i ∈ listFrom 0 position cs, ¬ i.Covers (position + Text.byteLength before)) :
    Unicode.isBlank c = true := by
  induction cs using cutInduction generalizing position before with
  | nil => simp at h
  | blank b cs hb ih =>
    cases before with
    | nil =>
      cases h
      exact hb
    | cons d before =>
      obtain ⟨rfl, rfl⟩ := List.cons.inj h
      rw [listFrom_blank hb, Text.byteLength_cons, ← Nat.add_assoc] at hcovers
      exact ih rfl hcovers
  | item b cs hb ih =>
    rw [listFrom_lexeme hb] at hcovers
    obtain ⟨hfirst, hlater⟩ := List.forall_mem_cons.mp hcovers
    have hbehind : ∀ between, before = word b cs ++ between →
        remainder b cs = between ++ c :: after → Unicode.isBlank c = true := by
      rintro between rfl hrest
      rw [Text.byteLength_append, ← Nat.add_assoc] at hlater
      exact ih hrest hlater
    -- the character stands behind the item that is cut off, or else this item covers it
    rw [← word_append_remainder] at h
    rcases List.append_eq_append_iff.mp h with ⟨between, hbefore, hrest⟩ | ⟨between, hword, hrest⟩
    · exact hbehind between hbefore hrest
    · cases between with
      | nil => exact hbehind [] (by rw [hword, List.append_nil, List.append_nil]) hrest.symm
      | cons d between =>
        have hd := d.utf8Size_pos
        refine absurd ⟨Nat.le_add_right .., ?_⟩ hfirst
        rw [hword, Text.byteLength_append, Text.byteLength_cons]
        dsimp only
        omega

/-! ### Scanning again and again -/

/-- What the scan of an item comes to, in the state that it leaves. -/
def outcome (i : Item) (q : Parser) : EStateM.Result SyntaxError Parser (Option Located) :=
  match i.reading with
  | .token t => .ok (some ⟨t, i.start⟩) q
  | .fault f => .error ⟨i.start, .lexical f⟩ q

end Item

namespace Parser

/-- The state that a scan leaves, whatever it comes to. -/
def scanned (p : Parser) : Parser :=
  match pull p with
  | .ok _ q => q
  | .error _ q => q

variable {p : Parser} {i : Item} {items : List Item}

theorem pull_cons (h : p.pending = i :: items) :
    pull p = i.outcome { p with pending := items, reached := i.stop } := by
  rw [pull, h]
  rfl

theorem pull_nil (h : p.pending = []) : pull p = .ok none { p with reached := p.length } := by
  rw [pull, h]

theorem scanned_eq (p : Parser) :
    p.scanned.pending = p.pending.tail ∧ p.scanned.length = p.length := by
  rw [scanned]
  cases h : p.pending with
  | nil => rw [pull_nil h]; exact ⟨h, rfl⟩
  | cons i items =>
    rw [pull_cons h, Item.outcome]
    cases i.reading <;> exact ⟨rfl, rfl⟩

/-- Every scan passes one item. -/
theorem iterate_scanned (n : Nat) (p : Parser) :
    (scanned^[n] p).pending = p.pending.drop n ∧ (scanned^[n] p).length = p.length := by
  induction n generalizing p with
  | zero => exact ⟨rfl, rfl⟩
  | succ n ih =>
    obtain ⟨hpending, hlength⟩ := ih p.scanned
    obtain ⟨htail, hsame⟩ := p.scanned_eq
    rw [Function.iterate_succ_apply, hpending, hlength, htail, hsame, List.drop_tail]
    exact ⟨rfl, rfl⟩

/-- **Scanning again and again** meets each item of the source in its turn, and then the end. -/
theorem pull_iterate (source : String) (n : Nat) :
    (∀ i, (Item.list source)[n]? = some i →
      ∃ q, q.reached = i.stop ∧ pull (scanned^[n] (start source)) = i.outcome q) ∧
    ((Item.list source).length ≤ n →
      ∃ q, q.reached = Text.byteLength source.toList ∧
        pull (scanned^[n] (start source)) = .ok none q) := by
  obtain ⟨hpending, hlength⟩ := iterate_scanned n (start source)
  constructor
  · intro i hi
    obtain ⟨hlt, rfl⟩ := List.getElem?_eq_some_iff.mp hi
    exact ⟨_, rfl, pull_cons (hpending.trans (List.drop_eq_getElem_cons hlt))⟩
  · intro hn
    exact ⟨_, hlength, pull_nil (hpending.trans (List.drop_eq_nil_of_le hn))⟩

end Parser

/-! ### The whole source -/

/-- An item **stands** in a text as a piece of it that is not empty, with `before` in front of the
piece and `after` behind it. -/
structure Item.StandsIn (i : Item) (cs before word after : List Char) : Prop where
  text_eq : cs = before ++ (word ++ after)
  word_ne : word ≠ []
  start_eq : i.start = Text.byteLength before
  stop_eq : i.stop = Text.byteLength (before ++ word)

/-- The items of a text that begins at byte `k` of another one. -/
theorem Item.listFrom_eq_map_shift (k : Nat) (cs : List Char) :
    listFrom 0 k cs = (list (String.ofList cs)).map (shift k) := by
  rw [list, String.toList_ofList, ← listFrom_shift, Nat.zero_add]

namespace Parser

/-- **Items tile their source.** There are no more of them than characters, and scanning again and
again meets each of them in its turn and then the end. They stand one behind the other, with nothing
but white space left out. Each of them stands in the source as a piece of it, from whose start and
from whose end on the source has just the items that are left, so much earlier; and the piece of a
token is the longest there that matches the rule of the token, or any rule. -/
theorem items_tile (source : String) :
    ((Item.list source).length ≤ source.toList.length ∧
      (∀ n i, (Item.list source)[n]? = some i →
        ∃ q, q.reached = i.stop ∧ pull (scanned^[n] (start source)) = i.outcome q) ∧
      ∀ n, (Item.list source).length ≤ n →
        ∃ q, q.reached = Text.byteLength source.toList ∧
          pull (scanned^[n] (start source)) = .ok none q) ∧
    (Item.list source).Pairwise (fun i j => i.stop ≤ j.start) ∧
    (∀ before c after, source.toList = before ++ c :: after →
      (∀ i ∈ Item.list source, ¬ i.Covers (Text.byteLength before)) →
        Unicode.isBlank c = true) ∧
    ∀ earlier i later, Item.list source = earlier ++ i :: later →
      ∃ before word after, i.StandsIn source.toList before word after ∧
        i :: later = (Item.list (String.ofList (word ++ after))).map (Item.shift i.start) ∧
        later = (Item.list (String.ofList after)).map (Item.shift i.stop) ∧
        ∀ t, i.reading = .token t → t.rule.Matches word ∧
          ∀ rule longer, TokenRule.Matches rule longer → longer <+: word ++ after →
            longer.length ≤ word.length := by
  refine ⟨⟨Item.length_listFrom_le 0 _, fun n => (pull_iterate source n).1,
    fun n => (pull_iterate source n).2⟩, Item.pairwise_stop_le_start 0 _, ?_, ?_⟩
  · intro before c after h hcovers
    rw [← Nat.zero_add (Text.byteLength before)] at hcovers
    exact Item.isBlank_of_not_covers h hcovers
  · intro earlier i later h
    obtain ⟨before, c, after, hsource, -, hreading, hstart, hstop, hhere, hlater⟩ :=
      Item.exists_word h
    have hcut := Item.word_append_remainder c after
    rw [Nat.zero_add] at hstart
    refine ⟨before, Item.word c after, Item.remainder c after, ?_, ?_, ?_, fun t ht => ?_⟩
    · refine ⟨hsource.trans (congrArg _ hcut.symm), List.cons_ne_nil _ _, hstart, ?_⟩
      rw [hstop, hstart, Text.byteLength_append]
    · rw [hcut, ← Item.listFrom_eq_map_shift]
      exact hhere
    · rw [← Item.listFrom_eq_map_shift]
      exact hlater
    · refine ⟨Token.matches_word (hreading.symm.trans ht), fun rule longer hlonger hfront => ?_⟩
      rw [hcut] at hfront
      exact TokenRule.length_le_word hlonger hfront

/-- An escape that spells nothing is one item with the literal around it, and reading goes on behind
the literal. -/
theorem items_tile_fault :
    let source := "ä <=\"\\q\"ß"
    let broken : Item := ⟨.fault .invalidEscape, 5, 9⟩
    Item.list source = [⟨.token (.name "ä"), 0, 2⟩, ⟨.token (.symbol .lessEqual), 3, 5⟩, broken,
      ⟨.token (.name "ß"), 9, 11⟩] ∧
    (∃ q, q.reached = 9 ∧
      pull (scanned^[2] (start source)) = .error ⟨5, .lexical .invalidEscape⟩ q) ∧
    ∃ before word after, broken.StandsIn source.toList before word after ∧
      [⟨.token (.name "ß"), 9, 11⟩] = (Item.list (String.ofList after)).map (Item.shift 9) := by
  intro source broken
  have hlist : Item.list source = [⟨.token (.name "ä"), 0, 2⟩, ⟨.token (.symbol .lessEqual), 3, 5⟩,
      broken, ⟨.token (.name "ß"), 9, 11⟩] := by decide +kernel
  obtain ⟨⟨-, hscans, -⟩, -, -, hitems⟩ := items_tile source
  refine ⟨hlist, hscans 2 broken (by rw [hlist]; rfl), ?_⟩
  obtain ⟨before, word, after, hstands, -, hafter, -⟩ := hitems [_, _] broken [_] hlist
  exact ⟨before, word, after, hstands, hafter⟩

end Parser

end SheetFormula
