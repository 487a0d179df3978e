import Mathlib.Data.List.Nodup
import SheetFormula.Formula

/-!
# Positions in a formula

A formula stands at a **position** of another one: the way down to it from the root, as the list of
the places among the children that are passed, counted from zero. `Formula.at?` looks a position up
and `Formula.modifyAt` changes what stands there.

The calls of a formula are listed by their positions in post-order, so that the arguments of a call
come before it and what stands left comes before what stands right (`Formula.callSites`). The list
has every call once (`Formula.mem_callSites_iff`, `Formula.nodup_callSites`).
-/

namespace SheetFormula

/-- A **position** in a formula. -/
abbrev Position := List Nat

namespace Formula

/-! ### Nodes and their children -/

/-- The children of the node at the root, from left to right. -/
def children : Formula → List Formula
  | .literal _ | .reference _ => []
  | .call _ arguments => arguments
  | .negation operand => [operand]
  | .binary _ left right => [left, right]
  | .junction _ operands => operands
  | .conditional condition onTrue onFalse => [condition, onTrue, onFalse]

/-- The node at the root with other children. A node that must have a certain number of children
stays as it is if it is offered another number. -/
def withChildren : Formula → List Formula → Formula
  | .call name _, fs => .call name fs
  | .negation _, [f] => .negation f
  | .binary op _ _, [f, g] => .binary op f g
  | .junction kind _, fs => .junction kind fs
  | .conditional _ _ _, [f, g, h] => .conditional f g h
  | f, _ => f

/-- Whether two formulas have the same node at the root, whatever their children are. -/
inductive SameNode : Formula → Formula → Prop
  | literal (v : Value) : SameNode (.literal v) (.literal v)
  | reference (name : String) : SameNode (.reference name) (.reference name)
  | call (name : String) (fs gs : List Formula) : SameNode (.call name fs) (.call name gs)
  | negation (f g : Formula) : SameNode (.negation f) (.negation g)
  | binary (op : Operator) (f f' g g' : Formula) : SameNode (.binary op f f') (.binary op g g')
  | junction (kind : Junction) (fs gs : List Formula) :
      SameNode (.junction kind fs) (.junction kind gs)
  | conditional (f f' f'' g g' g'' : Formula) :
      SameNode (.conditional f f' f'') (.conditional g g' g'')

theorem SameNode.refl (f : Formula) : SameNode f f := by
  cases f <;> constructor

theorem SameNode.trans {f g h : Formula} (hfg : SameNode f g) (hgh : SameNode g h) :
    SameNode f h := by
  cases hfg <;> cases hgh <;> constructor

theorem sameNode_withChildren (f : Formula) (fs : List Formula) :
    SameNode f (f.withChildren fs) := by
  unfold withChildren
  split
  case h_6 => exact .refl f
  all_goals constructor

theorem children_withChildren {f : Formula} {fs : List Formula}
    (h : fs.length = f.children.length) : (f.withChildren fs).children = fs := by
  cases f with
  | literal _ | reference _ => exact (List.length_eq_zero_iff.mp h).symm
  | call _ _ | junction _ _ => rfl
  | negation _ =>
    obtain ⟨f, rfl⟩ := List.length_eq_one_iff.mp h
    rfl
  | binary _ _ _ =>
    obtain ⟨f, g, rfl⟩ := List.length_eq_two.mp h
    rfl
  | conditional _ _ _ =>
    obtain ⟨f, g, h, rfl⟩ := List.length_eq_three.mp h
    rfl

theorem sizeOf_lt_of_mem_children {f g : Formula} (h : g ∈ f.children) : sizeOf g < sizeOf f := by
  cases f with
  | literal _ | reference _ => cases h
  | call _ fs | junction _ fs =>
    have hlt : sizeOf g < sizeOf fs := List.sizeOf_lt_of_mem h
    simp only [call.sizeOf_spec, junction.sizeOf_spec]
    omega
  | negation _ | binary _ _ _ | conditional _ _ _ =>
    simp only [children, List.mem_cons, List.not_mem_nil, or_false] at h
    rcases h with rfl | rfl | rfl <;>
      simp only [negation.sizeOf_spec, binary.sizeOf_spec, conditional.sizeOf_spec] <;> omega

/-- **Induction over the children**: what a formula inherits from its children holds of all. -/
@[elab_as_elim]
theorem childInduction {motive : Formula → Prop}
    (node : ∀ f, (∀ g ∈ f.children, motive g) → motive f) (f : Formula) : motive f :=
  node f fun g hg =>
    have _ : sizeOf g < sizeOf f := sizeOf_lt_of_mem_children hg
    childInduction node g
termination_by sizeOf f

/-! ### Looking a position up -/

/-- The formula at a position, if there is one. -/
def at? : Position → Formula → Option Formula
  | [], f => some f
  | i :: p, f => f.children[i]?.bind (at? p)

/-- The formula with what stands at a position changed. Nothing is changed where nothing stands. -/
def modifyAt (change : Formula → Formula) : Position → Formula → Formula
  | [], f => change f
  | i :: p, f => f.withChildren (f.children.modify i (modifyAt change p))

variable {change : Formula → Formula} {f g : Formula} {i : Nat} {p q : Position}

theorem at?_cons : f.at? (i :: p) = f.children[i]?.bind (at? p) := rfl

theorem at?_cons_of_child (h : f.children[i]? = some g) : f.at? (i :: p) = g.at? p := by
  rw [at?_cons, h, Option.bind_some]

theorem children_modifyAt : (f.modifyAt change (i :: p)).children =
    f.children.modify i (modifyAt change p) :=
  children_withChildren (List.length_modify ..)

/-- What stands below the place of a change is found in what it has become. -/
theorem at?_modifyAt_append (hp : f.at? p = some g) :
    (f.modifyAt change p).at? (p ++ q) = (change g).at? q := by
  induction p generalizing f with
  | nil =>
    cases hp
    rfl
  | cons i p ih =>
    rw [at?_cons, Option.bind_eq_some_iff] at hp
    obtain ⟨c, hc, hg⟩ := hp
    have hchild : (f.modifyAt change (i :: p)).children[i]? = some (c.modifyAt change p) := by
      rw [children_modifyAt, List.getElem?_modify_eq, hc]
      rfl
    rw [List.cons_append, at?_cons_of_child hchild]
    exact ih hg

/-- A node that does not stand below the place of a change stays, with as many children. -/
theorem at?_modifyAt_of_not_prefix (change : Formula → Formula) (hp : ¬ p <+: q)
    (hq : f.at? q = some g) :
    ∃ g', (f.modifyAt change p).at? q = some g' ∧ SameNode g g' ∧
      g'.children.length = g.children.length := by
  induction p generalizing f q with
  | nil => exact absurd (List.nil_prefix ..) hp
  | cons i p ih =>
    cases q with
    | nil =>
      cases hq
      refine ⟨_, rfl, sameNode_withChildren .., ?_⟩
      rw [children_modifyAt, List.length_modify]
    | cons j q =>
      rw [at?_cons, Option.bind_eq_some_iff] at hq
      obtain ⟨c, hc, hg⟩ := hq
      by_cases hij : i = j
      · subst hij
        have hchild : (f.modifyAt change (i :: p)).children[i]? = some (c.modifyAt change p) := by
          rw [children_modifyAt, List.getElem?_modify_eq, hc]
          rfl
        have hrest : ¬ p <+: q := fun h => hp (List.cons_prefix_cons.mpr ⟨rfl, h⟩)
        rw [at?_cons_of_child hchild]
        exact ih hrest hg
      · have hchild : (f.modifyAt change (i :: p)).children[j]? = some c := by
          rw [children_modifyAt, List.getElem?_modify_ne _ _ hij, hc]
        rw [at?_cons_of_child hchild]
        exact ⟨g, hg, .refl g, rfl⟩

/-! ### The calls of a formula -/

mutual

/-- The positions of the calls of a formula in **post-order**. -/
def callSites : Formula → List Position
  | .literal _ | .reference _ => []
  | .call _ arguments => callSitesAmong 0 arguments ++ [[]]
  | .negation operand => (callSites operand).map (List.cons 0)
  | .binary _ left right =>
    (callSites left).map (List.cons 0) ++ (callSites right).map (List.cons 1)
  | .junction _ operands => callSitesAmong 0 operands
  | .conditional condition onTrue onFalse =>
    (callSites condition).map (List.cons 0) ++ ((callSites onTrue).map (List.cons 1) ++
      (callSites onFalse).map (List.cons 2))

/-- The positions of the calls of neighbouring children, the first of which stands at place
`i`. -/
def callSitesAmong (i : Nat) : List Formula → List Position
  | [] => []
  | f :: fs => (callSites f).map (List.cons i) ++ callSitesAmong (i + 1) fs

end

/-- Whether the node at the root is a call. -/
def isCall : Formula → Bool
  | .call _ _ => true
  | _ => false

/-- The calls of the children come first, and then the formula itself if it is one. -/
theorem callSites_eq (f : Formula) :
    f.callSites = callSitesAmong 0 f.children ++ if f.isCall then [[]] else [] := by
  cases f <;> simp [callSites, callSitesAmong, children, isCall]

theorem mem_callSitesAmong_iff {fs : List Formula} :
    p ∈ callSitesAmong i fs ↔
      ∃ j f q, fs[j]? = some f ∧ q ∈ f.callSites ∧ p = (i + j) :: q := by
  induction fs generalizing i with
  | nil => simp [callSitesAmong]
  | cons f fs ih =>
    rw [callSitesAmong, List.mem_append, List.mem_map, ih]
    constructor
    · rintro (⟨q, hq, rfl⟩ | ⟨j, g, q, hg, hq, rfl⟩)
      · exact ⟨0, f, q, rfl, hq, rfl⟩
      · exact ⟨j + 1, g, q, hg, hq, by rw [Nat.add_right_comm, Nat.add_assoc]⟩
    · rintro ⟨j, g, q, hg, hq, rfl⟩
      cases j with
      | zero =>
        cases hg
        exact .inl ⟨q, hq, rfl⟩
      | succ j => exact .inr ⟨j, g, q, hg, hq, by rw [Nat.add_right_comm, Nat.add_assoc]⟩

/-- **All calls are listed**, and nothing else is. -/
theorem mem_callSites_iff :
    p ∈ f.callSites ↔ ∃ name arguments, f.at? p = some (.call name arguments) := by
  induction f using childInduction generalizing p with
  | node f ih =>
    rw [callSites_eq, List.mem_append, mem_callSitesAmong_iff]
    cases p with
    | nil => cases f <;> simp [isCall, at?]
    | cons i p =>
      rw [at?_cons]
      constructor
      · rintro (⟨j, c, q, hc, hq, heq⟩ | hroot)
        · obtain ⟨rfl, rfl⟩ := List.cons.inj heq
          rw [Nat.zero_add, hc]
          exact (ih c (List.mem_of_getElem? hc)).mp hq
        · split at hroot <;> simp at hroot
      · rintro ⟨name, arguments, h⟩
        obtain ⟨c, hc, hcall⟩ := Option.bind_eq_some_iff.mp h
        have hq : p ∈ c.callSites := (ih c (List.mem_of_getElem? hc)).mpr ⟨name, arguments, hcall⟩
        exact .inl ⟨i, c, p, hc, hq, by rw [Nat.zero_add]⟩

example : (call "F" [call "A" [], negation (call "B" [])]).callSites = [[0], [1, 0], []] := rfl

theorem nodup_callSitesAmong {fs : List Formula} (h : ∀ f ∈ fs, f.callSites.Nodup) :
    (callSitesAmong i fs).Nodup := by
  induction fs generalizing i with
  | nil => exact .nil
  | cons f fs ih =>
    obtain ⟨hf, hfs⟩ := List.forall_mem_cons.mp h
    refine List.Nodup.append (hf.map List.cons_injective) (ih hfs) ?_
    -- positions below different children differ in their first place
    intro p hp hp'
    obtain ⟨q, -, rfl⟩ := List.mem_map.mp hp
    obtain ⟨j, g, q', -, -, heq⟩ := mem_callSitesAmong_iff.mp hp'
    have hplace := (List.cons.inj heq).1
    omega

/-- **Every call is listed once.** -/
theorem nodup_callSites (f : Formula) : f.callSites.Nodup := by
  induction f using childInduction with
  | node f ih =>
    rw [callSites_eq]
    refine List.Nodup.append (nodup_callSitesAmong ih) (by split <;> simp) ?_
    intro p hp hroot
    obtain ⟨j, g, q, -, -, rfl⟩ := mem_callSitesAmong_iff.mp hp
    split at hroot <;> simp at hroot

end Formula

end SheetFormula
