import Mathlib.Data.List.MinMax
import SheetFormula.Proofs.Expression.RoundTrip
import SheetFormula.Proofs.Formula.Position
import SheetFormula.Proofs.Parser.Ceiling

/-!
# The ceiling that a canonical text needs

How deep the rules nest when a canonical text is read is given by a recursion on its formula,
`Formula.descents`, with one clause for each kind of rule. The canonical text is parsed under just
those ceilings that are more than two above the number of the rule for expressions
(`Formula.parse_display_threshold`).

What a construct adds to the numbers of its parts is simple. An operator adds one level for its
right side, so that a chain which groups to the right costs one level for each further operand;
parentheses that must be written cost four levels, and so does a call, however many arguments it
has.
-/

namespace SheetFormula

namespace Formula

variable {f g left right : Formula} {l : Level} {r : Rule}

/-! ### The rules below a rule -/

/-- The two sides of the operator at the root, if there is one and it is of the given level. -/
def sides? (l : Level) : Formula → Option (Formula × Formula)
  | .binary op left right => if op.symbol.level? = some l then some (left, right) else none
  | _ => none

theorem exists_binary_of_sides? (h : f.sides? l = some (left, right)) :
    ∃ op, op.level = l ∧ f = .binary op left right := by
  cases f with
  | binary op a b =>
    rw [sides?] at h
    split at h
    · next hop =>
      cases h
      exact ⟨op, Operator.level?_symbol_iff.mp hop, rfl⟩
    · cases h
  | _ => cases h

theorem tightness_ne_of_sides? (h : f.sides? l = none) : f.tightness ≠ l.rank := by
  cases f with
  | binary op a b =>
    intro hrank
    have hl := Level.rank_inj.mp ((tightness_binary op a b).symm.trans hrank)
    rw [sides?, if_pos (Operator.level?_symbol_iff.mpr hl)] at h
    cases h
  | _ => exact Nat.ne_of_gt l.rank_lt

/-- How often a formula is handed on from a rule until it is read by the one that it belongs to. -/
def handovers (r : Rule) (f : Formula) : Nat :=
  if r = .program then 4 else (f.tightness + 5 - r.place) % 4

theorem handovers_le (r : Rule) (f : Formula) : f.handovers r ≤ 4 := by
  unfold handovers
  split <;> omega

theorem handovers_expression_lt (f : Formula) : f.handovers .expression < f.handovers .program := by
  have hne : Rule.expression ≠ .program := nofun
  rw [handovers, handovers, if_neg hne, if_pos rfl]
  omega

theorem handovers_tighter_lt (h : f.tightness ≠ l.rank) :
    f.handovers l.tighter < f.handovers (.level l) := by
  have hrank := l.rank_lt
  have htight := f.tightness_le
  have hne : l.tighter ≠ .program := by cases l <;> nofun
  rw [handovers, handovers, if_neg hne, if_neg nofun, Level.place_tighter, Rule.place]
  omega

theorem handovers_group_lt (h : f.tightness < 3) :
    f.handovers .expression < f.handovers .term := by
  have hexpression : Rule.expression.place = 1 := rfl
  have hterm : Rule.term.place = 4 := rfl
  rw [handovers, handovers, if_neg nofun, if_neg nofun, hexpression, hterm]
  omega

/-- **The rules below a rule**: how many are entered, one within the other, when the canonical text
of a formula is read by it. The rule of a level reads the sides of an operator of its own, and hands
everything else on to the next tighter rule. A term that is an operator between two operands stands
in parentheses, and of every other term the children are read as expressions. -/
def descents : Rule → Formula → Nat
  | .program, f => 1 + descents .expression f
  | .level l, f =>
    match _h : f.sides? l with
    | some (left, right) => 1 + max (descents l.tighter left) (descents (.level l) right)
    | none => 1 + descents l.tighter f
  | .term, f =>
    if f.tightness < 3 then 1 + descents .expression f
    else (f.children.attach.map fun child => 1 + descents .expression child.1).foldr max 0
termination_by r f => 5 * sizeOf f + f.handovers r
decreasing_by
  · exact Nat.add_lt_add_left (handovers_expression_lt f) _
  · obtain ⟨op, -, rfl⟩ := exists_binary_of_sides? _h
    have hle := left.handovers_le l.tighter
    simp only [binary.sizeOf_spec]
    omega
  · obtain ⟨op, -, rfl⟩ := exists_binary_of_sides? _h
    have hle := right.handovers_le (.level l)
    simp only [binary.sizeOf_spec]
    omega
  · exact Nat.add_lt_add_left (handovers_tighter_lt (tightness_ne_of_sides? _h)) _
  · exact Nat.add_lt_add_left (handovers_group_lt ‹_›) _
  · have hlt := sizeOf_lt_of_mem_children child.2
    have hle := child.1.handovers_le .expression
    omega

theorem descents_program (f : Formula) : f.descents .program = 1 + f.descents .expression := by
  rw [descents]

theorem descents_own (op : Operator) (left right : Formula) :
    (binary op left right).descents (.level op.level) =
      1 + max (left.descents op.level.tighter) (right.descents (.level op.level)) := by
  rw [descents, sides?, if_pos op.level?_symbol]

theorem descents_handover (h : f.sides? l = none) :
    f.descents (.level l) = 1 + f.descents l.tighter := by
  rw [descents, h]

theorem descents_group (h : f.tightness < 3) : f.descents .term = 1 + f.descents .expression := by
  rw [descents, if_pos h]

theorem descents_children (h : ¬ f.tightness < 3) :
    f.descents .term = (f.children.map fun g => 1 + g.descents .expression).foldr max 0 := by
  rw [descents, if_neg h]
  exact congrArg _ (List.attach_map_val (f := fun g => 1 + descents .expression g))

/-! ### As many rules as must nest -/

theorem deepest_eq_foldr (fs : List Formula) :
    deepest fs = (fs.map fun g => g.levelsAt 1).foldr max 0 := by
  induction fs with
  | nil => rfl
  | cons f fs ih => rw [deepest, ih, List.map_cons, List.foldr_cons, levelsAt]

/-- A term nests one level more than its children. -/
theorem levels_eq_of_term (h : ¬ f.tightness < 3) : f.levels = deepest f.children + 1 := by
  cases f with
  | literal _ | reference _ | call _ _ | junction _ _ => rfl
  | negation f => rw [levels, children, deepest, deepest, Nat.max_zero]
  | conditional f g k =>
    rw [levels, children, deepest, deepest, deepest, deepest, Nat.max_zero]
  | binary op _ _ =>
    rw [tightness_binary] at h
    exact absurd op.level.rank_lt h

/-- **The recursion counts the rules that must nest** below a rule. -/
theorem levelsAt_eq_descents (r : Rule) (f : Formula) : f.levelsAt r.place = 1 + f.descents r := by
  induction r, f using descents.induct with
  | case1 f ih =>
    have hsucc : f.levelsAt 0 = f.levelsAt 1 + 1 :=
      levelsAt_eq_succ (by decide) (Nat.succ_ne_zero _).symm
    rw [descents_program, ← ih, Nat.add_comm 1]
    exact hsucc
  | case2 l f left right h ihl ihr =>
    obtain ⟨op, rfl, rfl⟩ := exists_binary_of_sides? h
    rw [Level.place_tighter, levelsAt] at ihl
    rw [Rule.place, levelsAt] at ihr
    rw [Rule.place, levelsAt_binary, levels, ihl, ihr, descents_own]
    omega
  | case3 l f h ih =>
    have hplace : l.rank + 1 < 4 := Nat.succ_lt_succ l.rank_lt
    have hne : l.rank + 1 ≠ f.tightness + 1 := fun heq =>
      tightness_ne_of_sides? h (Nat.succ.inj heq).symm
    rw [Level.place_tighter] at ih
    rw [Rule.place, levelsAt_eq_succ hplace hne, ih, descents_handover h, Nat.add_comm]
  | case4 f h ih =>
    rw [descents_group h, ← ih, Nat.add_comm]
    exact levelsAt_term_eq h
  | case5 f h ih =>
    have hchild : ∀ g ∈ f.children, g.levelsAt 1 = 1 + g.descents .expression :=
      fun g hg => ih ⟨g, hg⟩
    have hterm : f.tightness = 3 := Nat.le_antisymm f.tightness_le (Nat.le_of_not_lt h)
    rw [levelsAt_term hterm, levels_eq_of_term h, deepest_eq_foldr, List.map_congr_left hchild,
      descents_children h, Nat.add_comm]

/-- The place of a rule and parentheses are all that makes a difference to a formula: from a rule
behind its own it must be put in parentheses, which costs four levels. -/
theorem descents_add_place (r : Rule) (hr : r ≠ .program) (f : Formula) :
    f.descents r + r.place =
      f.descents .expression + 1 + if r.place ≤ f.tightness + 1 then 0 else 4 := by
  have hplace : 1 ≤ r.place := by
    cases r with
    | program => exact absurd rfl hr
    | level l => exact Nat.succ_pos _
    | term => decide
  have hle := r.place_le
  have hterm : Rule.term.place = 4 := rfl
  have htight := f.tightness_le
  have hr := levelsAt_eq_descents r f
  have hexpression : f.levelsAt 1 = _ := levelsAt_eq_descents .expression f
  unfold levelsAt levelsFrom at hr hexpression
  split at hr <;> split at hexpression <;> split <;> omega

/-- An operator costs one level for its right side, and each side that must stand in parentheses
costs four. -/
theorem descents_binary (op : Operator) (left right : Formula) :
    (binary op left right).descents .expression =
      max (left.descents .expression + if left.tightness ≤ op.level.rank then 4 else 0)
        (right.descents .expression + 1 + if right.tightness < op.level.rank then 4 else 0) := by
  have hrank := op.level.rank_lt
  have hne : op.level.tighter ≠ .program := by cases op.level <;> nofun
  have hroot := descents_add_place (.level op.level) nofun (binary op left right)
  have hleft := descents_add_place op.level.tighter hne left
  have hright := descents_add_place (.level op.level) nofun right
  rw [descents_own, tightness_binary, Rule.place, if_pos (Nat.le_refl _)] at hroot
  rw [Level.place_tighter] at hleft
  rw [Rule.place] at hright
  split at hleft <;> split at hright <;> split <;> split <;> omega

/-- Every construct whose children stand between its parentheses costs four levels more than the
most costly child. -/
theorem descents_of_children (hterm : g.tightness = 3) (hf : f ∈ g.children)
    (hmost : ∀ c ∈ g.children, c.descents .expression ≤ f.descents .expression) :
    g.descents .expression = f.descents .expression + 4 := by
  have hroot := descents_add_place .term nofun g
  have hplace : Rule.term.place = 4 := rfl
  rw [descents_children (by omega), hplace, if_pos (by omega)] at hroot
  have hle : (g.children.map fun c => 1 + c.descents .expression).foldr max 0 ≤
      1 + f.descents .expression := by
    refine List.max_le_of_forall_le _ _ fun n hn => ?_
    obtain ⟨c, hc, rfl⟩ := List.mem_map.mp hn
    exact Nat.add_le_add_left (hmost c hc) 1
  have hge : 1 + f.descents .expression ≤
      (g.children.map fun c => 1 + c.descents .expression).foldr max 0 :=
    List.le_max_of_le (List.mem_map_of_mem hf) (Nat.le_refl _)
  omega

/-! ### The threshold -/

/-- **The ceiling that a canonical text needs** is given by the recursion on its formula: what has
been parsed is parsed again from its canonical text just under the ceilings that are more than two
above the number of the rules below an expression, and refused for its depth under all others. So
the right side of an operator costs one level, parentheses that must be written cost four, and a
construct with children between its parentheses costs four, whatever their number. -/
theorem parse_display_threshold (f : Formula) (h : ∃ m₀ source, parse m₀ source = .ok f) :
    (∀ m, ((∃ g, parse m f.display = .ok g) ↔ 2 + f.descents .expression < m) ∧
      (2 + f.descents .expression < m → parse m f.display = .ok f) ∧
      (¬ 2 + f.descents .expression < m → Refused m f.display)) ∧
    (∀ op left right, (binary op left right).descents .expression =
      max (left.descents .expression + if left.tightness ≤ op.level.rank then 4 else 0)
        (right.descents .expression + 1 + if right.tightness < op.level.rank then 4 else 0)) ∧
    ∀ g : Formula, g.tightness = 3 → ∀ c ∈ g.children,
      (∀ d ∈ g.children, d.descents .expression ≤ c.descents .expression) →
      g.descents .expression = c.descents .expression + 4 := by
  refine ⟨fun m => ?_, descents_binary, fun g hterm c => descents_of_children hterm⟩
  obtain ⟨m₀, source, hsource⟩ := h
  have hlevels : f.levelsAt 0 = 2 + f.descents .expression := by
    have hprogram : f.levelsAt 0 = 1 + f.descents .program := levelsAt_eq_descents .program f
    rw [hprogram, descents_program, ← Nat.add_assoc]
  have hcases := (spellable_of_parse hsource).parse_display m
  rw [hlevels] at hcases
  rcases hcases with ⟨hm, hparse⟩ | ⟨hm, hrefused⟩
  · exact ⟨iff_of_true ⟨f, hparse⟩ hm, fun _ => hparse, fun hnot => absurd hm hnot⟩
  · refine ⟨iff_of_false ?_ (Nat.not_lt_of_le hm), fun hlt => absurd hlt (Nat.not_lt_of_le hm),
      fun _ => hrefused⟩
    rintro ⟨g, hg⟩
    obtain ⟨e, he, -⟩ := hrefused
    cases he.symm.trans hg

/-- `(A + B) * F(C; D)` needs a ceiling of eleven: eight rules are entered below the first
expression, the last four of them for the parentheses that must be written. -/
theorem parse_display_threshold_product :
    let f : Formula := .binary (.arithmetic .mul)
      (.binary (.arithmetic .add) (.reference "A") (.reference "B"))
      (.call "F" [.reference "C", .reference "D"])
    parse 30 "((A)+B)*F(C;D)" = .ok f ∧ f.descents .expression = 8 ∧
      parse 11 f.display = .ok f ∧ Refused 10 f.display := by
  intro f
  let leaf (name : String) : Derivation .term := .reference name
  let whole (d : Derivation .term) : Derivation .expression := .operand (.operand (.operand d))
  let sum : Derivation .expression := .operand
    (.binary (.arithmetic .add) rfl (.operand (.group (whole (leaf "A"))))
      (.operand (.operand (leaf "B"))))
  let call : Derivation .term :=
    .call "F" rfl (.more (whole (leaf "C")) (.last (whole (leaf "D"))))
  let d : Derivation .program := .program (.operand (.operand
    (.binary (.arithmetic .mul) rfl (.group sum) (.operand call))))
  have hparse : parse 30 "((A)+B)*F(C;D)" = .ok f :=
    parse_eq_ok_iff.mpr ⟨d, by decide +kernel, rfl, by decide⟩
  have hdescents : f.descents .expression = 8 := by decide +kernel
  obtain ⟨hthreshold, -⟩ := parse_display_threshold f ⟨30, _, hparse⟩
  exact ⟨hparse, hdescents, (hthreshold 11).2.1 (by omega), (hthreshold 10).2.2 (by omega)⟩

end Formula

end SheetFormula
