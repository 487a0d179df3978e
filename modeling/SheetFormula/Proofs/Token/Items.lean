import SheetFormula.Token.Scan

/-!
# The items of a text in order

A text is cut into its items and white space. From the front of a text an item is cut off together
with nothing but itself, and what is left is read as a text of its own (`Item.listFrom_lexeme`,
`Item.listFrom_shift`), so that reading can be taken up again where any item starts or stops
(`Item.exists_word`). Facts about all items of a text are proved by `Item.cutInduction`, which goes
from cut to cut: items start at boundaries of their text, one behind the other. What is read can be
taken apart from the front in the same way (`Item.readings_lexeme`).
-/

namespace SheetFormula

/-! ### Boundaries -/

/-- A byte position is a **boundary** of a text when it stands between two pieces of it. -/
def Text.IsBoundary (cs : List Char) (position : Nat) : Prop :=
  ∃ before after, cs = before ++ after ∧ position = byteLength before

theorem Text.isBoundary_byteLength (cs : List Char) : IsBoundary cs (byteLength cs) :=
  ⟨cs, [], (List.append_nil cs).symm, rfl⟩

theorem Text.IsBoundary.le_byteLength {cs : List Char} {position : Nat}
    (h : IsBoundary cs position) : position ≤ byteLength cs := by
  obtain ⟨before, after, rfl, rfl⟩ := h
  rw [byteLength_append]
  exact Nat.le_add_right _ _

namespace Item

/-! ### One cut after the other -/

/-- The item as it is in a text that begins `k` bytes earlier. -/
def shift (k : Nat) (i : Item) : Item := ⟨i.reading, i.start + k, i.stop + k⟩

/-- The characters of the item at the front of a text. -/
def word (c : Char) (cs : List Char) : List Char := c :: cs.take (lexeme c cs).2

/-- The characters behind the item at the front of a text. -/
def remainder (c : Char) (cs : List Char) : List Char := cs.drop (lexeme c cs).2

variable {skip position : Nat} {c : Char} {cs : List Char} {i : Item}

theorem word_append_remainder (c : Char) (cs : List Char) :
    word c cs ++ remainder c cs = c :: cs :=
  congrArg (List.cons c) (List.take_append_drop ..)

/-- The characters of an item that has been read are passed. -/
theorem listFrom_skip (skip position : Nat) (cs : List Char) :
    listFrom skip position cs =
      listFrom 0 (position + Text.byteLength (cs.take skip)) (cs.drop skip) := by
  induction cs generalizing skip position with
  | nil => cases skip <;> rfl
  | cons c cs ih =>
    cases skip with
    | zero => rfl
    | succ skip =>
      rw [listFrom, ih, List.take_succ_cons, List.drop_succ_cons, Text.byteLength_cons,
        Nat.add_assoc]

theorem listFrom_blank (hc : Unicode.isBlank c = true) :
    listFrom 0 position (c :: cs) = listFrom 0 (position + c.utf8Size) cs := by
  rw [listFrom, if_pos hc]

/-- **One item is cut off** at the front, and the rest is read from where it stops. -/
theorem listFrom_lexeme (hc : Unicode.isBlank c = false) :
    listFrom 0 position (c :: cs) =
      ⟨(lexeme c cs).1, position, position + Text.byteLength (word c cs)⟩ ::
        listFrom 0 (position + Text.byteLength (word c cs)) (remainder c cs) := by
  have hrest : listFrom (lexeme c cs).2 (position + c.utf8Size) cs =
      listFrom 0 (position + Text.byteLength (word c cs)) (remainder c cs) := by
    rw [listFrom_skip, word, remainder, Text.byteLength_cons, Nat.add_assoc]
  rw [listFrom, if_neg (by rw [hc]; exact Bool.false_ne_true)]
  exact congrArg (_ :: ·) hrest

/-- Induction from cut to cut: over a white character or over an item at the front. -/
theorem cutInduction {motive : List Char → Prop} (nil : motive [])
    (blank : ∀ c cs, Unicode.isBlank c = true → motive cs → motive (c :: cs))
    (item : ∀ c cs, Unicode.isBlank c = false → motive (remainder c cs) → motive (c :: cs)) :
    ∀ cs, motive cs
  | [] => nil
  | c :: cs => by
    cases hc : Unicode.isBlank c with
    | true => exact blank c cs hc (cutInduction nil blank item cs)
    | false => exact item c cs hc (cutInduction nil blank item (remainder c cs))
  termination_by cs => cs.length
  decreasing_by
    all_goals
      simp only [remainder, List.length_cons, List.length_drop]
      omega

/-! ### Where an item stands -/

/-- **Reading does not depend on what was read before.** A text that begins later has the same items
so much later. -/
theorem listFrom_shift (k position : Nat) (cs : List Char) :
    listFrom 0 (position + k) cs = (listFrom 0 position cs).map (shift k) := by
  induction cs using cutInduction generalizing position with
  | nil => rfl
  | blank c cs hc ih => rw [listFrom_blank hc, listFrom_blank hc, Nat.add_right_comm, ih]
  | item c cs hc ih =>
    rw [listFrom_lexeme hc, listFrom_lexeme hc, List.map_cons, ← ih, shift,
      Nat.add_right_comm position]

/-- The items from the start of one on. -/
theorem exists_word {earlier later : List Item}
    (h : listFrom 0 position cs = earlier ++ i :: later) :
    ∃ before c after, cs = before ++ c :: after ∧ Unicode.isBlank c = false ∧
      i.reading = (lexeme c after).1 ∧ i.start = position + Text.byteLength before ∧
      i.stop = i.start + Text.byteLength (word c after) ∧
      i :: later = listFrom 0 i.start (c :: after) ∧
      later = listFrom 0 i.stop (remainder c after) := by
  induction cs using cutInduction generalizing position earlier with
  | nil => simp [listFrom] at h
  | blank c cs hc ih =>
    rw [listFrom_blank hc] at h
    obtain ⟨before, d, after, rfl, hd, hreading, hstart, hrest⟩ := ih h
    refine ⟨c :: before, d, after, rfl, hd, hreading, ?_, hrest⟩
    rw [hstart, Text.byteLength_cons, Nat.add_assoc]
  | item c cs hc ih =>
    have hcut : listFrom 0 position (c :: cs) = _ := listFrom_lexeme hc
    rw [hcut] at h
    cases earlier with
    | nil =>
      obtain ⟨rfl, rfl⟩ := List.cons.inj h
      exact ⟨[], c, cs, rfl, hc, rfl, rfl, rfl, hcut.symm, rfl⟩
    | cons j earlier =>
      obtain ⟨before, d, after, hafter, hd, hreading, hstart, hrest⟩ := ih (List.cons.inj h).2
      refine ⟨word c cs ++ before, d, after, ?_, hd, hreading, ?_, hrest⟩
      · rw [List.append_assoc, ← hafter, word_append_remainder]
      · rw [hstart, Text.byteLength_append, Nat.add_assoc]

/-- An item is the lexeme in front of which it starts. -/
theorem exists_lexeme (h : i ∈ listFrom skip position cs) :
    ∃ before c after, cs = before ++ c :: after ∧ i.start = position + Text.byteLength before ∧
      Unicode.isBlank c = false ∧ i.reading = (lexeme c after).1 := by
  rw [listFrom_skip] at h
  obtain ⟨earlier, later, hsplit⟩ := List.append_of_mem h
  obtain ⟨before, c, after, hdrop, hc, hreading, hstart, -⟩ := exists_word hsplit
  refine ⟨cs.take skip ++ before, c, after, ?_, ?_, hc, hreading⟩
  · rw [List.append_assoc, ← hdrop, List.take_append_drop]
  · rw [hstart, Text.byteLength_append, Nat.add_assoc]

theorem position_le_start (h : i ∈ listFrom skip position cs) : position ≤ i.start := by
  obtain ⟨before, -, -, -, hstart, -⟩ := exists_lexeme h
  omega

theorem start_lt_stop (h : i ∈ listFrom 0 position cs) : i.start < i.stop := by
  obtain ⟨earlier, later, hsplit⟩ := List.append_of_mem h
  obtain ⟨-, c, after, -, -, -, -, hstop, -⟩ := exists_word hsplit
  have hc := c.utf8Size_pos
  rw [hstop, word, Text.byteLength_cons]
  omega

/-- Items stand one behind the other. -/
theorem pairwise_stop_le_start (position : Nat) (cs : List Char) :
    (listFrom 0 position cs).Pairwise fun i j => i.stop ≤ j.start := by
  induction cs using cutInduction generalizing position with
  | nil => exact .nil
  | blank c cs hc ih =>
    rw [listFrom_blank hc]
    exact ih _
  | item c cs hc ih =>
    rw [listFrom_lexeme hc]
    exact .cons (fun j hj => position_le_start hj) (ih _)

/-- Items start one behind the other. -/
theorem pairwise_start (position : Nat) (cs : List Char) :
    (listFrom 0 position cs).Pairwise fun i j => i.start < j.start :=
  (pairwise_stop_le_start position cs).imp_of_mem fun hi _ h =>
    Nat.lt_of_lt_of_le (start_lt_stop hi) h

/-- An item starts at a boundary of its source, before the end. -/
theorem start_of_mem_list {source : String} (h : i ∈ list source) :
    Text.IsBoundary source.toList i.start ∧ i.start < Text.byteLength source.toList := by
  obtain ⟨before, c, after, hsource, hstart, -⟩ := exists_lexeme h
  rw [Nat.zero_add] at hstart
  refine ⟨⟨before, c :: after, hsource, hstart⟩, ?_⟩
  have hc := c.utf8Size_pos
  rw [hsource, hstart, Text.byteLength_append, Text.byteLength_cons]
  omega

/-- An item stops within its source. -/
theorem stop_le_of_mem_list {source : String} (h : i ∈ list source) :
    i.stop ≤ Text.byteLength source.toList := by
  obtain ⟨earlier, later, hsplit⟩ := List.append_of_mem h
  obtain ⟨before, c, after, hsource, -, -, hstart, hstop, -⟩ := exists_word hsplit
  rw [hsource, ← word_append_remainder, Text.byteLength_append, Text.byteLength_append]
  omega

/-- The items that start before a given one are those in front of it. -/
theorem filter_start_lt {source : String} {before after : List Item}
    (h : list source = before ++ i :: after) :
    (list source).filter (fun j => j.start < i.start) = before := by
  have hsorted := pairwise_start 0 source.toList
  rw [show listFrom 0 0 source.toList = before ++ i :: after from h,
    List.pairwise_append] at hsorted
  obtain ⟨-, hbehind, hbefore⟩ := hsorted
  have hkeep : ∀ j ∈ before, j.start < i.start := fun j hj =>
    hbefore j hj i (List.mem_cons_self ..)
  have hdrop : ∀ j ∈ i :: after, ¬ j.start < i.start := by
    intro j hj
    rcases List.mem_cons.mp hj with rfl | hj
    · exact Nat.lt_irrefl _
    · exact Nat.not_lt_of_lt ((List.pairwise_cons.mp hbehind).1 j hj)
  rw [h, List.filter_append, List.filter_eq_self.mpr fun j hj => decide_eq_true (hkeep j hj),
    List.filter_eq_nil_iff.mpr fun j hj => by simpa using hdrop j hj, List.append_nil]

/-- All items start before the end. -/
theorem filter_start_lt_byteLength (source : String) :
    (list source).filter (fun j => j.start < Text.byteLength source.toList) = list source :=
  List.filter_eq_self.mpr fun _ hj => decide_eq_true (start_of_mem_list hj).2

/-! ### Readings -/

/-- What is read as the items of a text. -/
def readings (cs : List Char) : List Reading := (listFrom 0 0 cs).map reading

/-- What is read does not depend on where the text begins, and passed characters have no part
in it. -/
theorem map_reading_listFrom (skip position : Nat) (cs : List Char) :
    (listFrom skip position cs).map reading = readings (cs.drop skip) := by
  have hshift := listFrom_shift (position + Text.byteLength (cs.take skip)) 0 (cs.drop skip)
  rw [Nat.zero_add] at hshift
  rw [listFrom_skip, hshift, List.map_map]
  rfl

theorem map_reading_list (source : String) :
    (list source).map reading = readings source.toList := rfl

@[simp]
theorem readings_nil : readings [] = [] := rfl

/-- White space is left out. -/
theorem readings_blank {c : Char} (hc : Unicode.isBlank c = true) (cs : List Char) :
    readings (c :: cs) = readings cs := by
  rw [readings, listFrom_blank hc]
  exact map_reading_listFrom 0 _ cs

/-- A lexeme is cut off at the front. -/
theorem readings_lexeme {c : Char} (hc : Unicode.isBlank c = false) (cs : List Char) :
    readings (c :: cs) = (lexeme c cs).1 :: readings (cs.drop (lexeme c cs).2) := by
  rw [readings, listFrom_lexeme hc]
  exact congrArg (_ :: ·) (map_reading_listFrom 0 _ _)

end Item

/-! ### The tokens of a source -/

/-- The token that was read, if one was. -/
def Reading.token? : Reading → Option Token
  | token t => some t
  | fault _ => none

/-- The tokens of a source, places where no token can be read left out. -/
def Item.tokens (source : String) : List Token :=
  (Item.list source).filterMap fun i => i.reading.token?

/-- Whether a source **lexes** to the given tokens, all of it. -/
def Lexes (source : String) (ts : List Token) : Prop :=
  (Item.list source).map Item.reading = ts.map Reading.token

instance (source : String) (ts : List Token) : Decidable (Lexes source ts) :=
  inferInstanceAs (Decidable (_ = _))

namespace Lexes

variable {source : String} {ts : List Token}

theorem tokens_eq (h : Lexes source ts) : Item.tokens source = ts := by
  have key : Item.tokens source =
      ((Item.list source).map Item.reading).filterMap Reading.token? := by
    rw [List.filterMap_map]
    rfl
  rw [key, h, List.filterMap_map]
  exact List.filterMap_some

end Lexes

end SheetFormula
