import SheetFormula.Proofs.Evaluation.CallOrder

/-!
# What is not visited

An evaluation depends on nothing but what it visits. A formula **keeps** another one when the nodes
that are visited stand where they stood, and then the two have the same outcome: the same value or
error, the same calls and the same state of the host (`Formula.Keeps.evaluate_eq`,
`Formula.Keeps.trace_eq`). Only the operands of a junction that come after the one which settles it
may change in number.

So nothing comes of edits where the evaluation does not come: other formulas in the place of those
that are not visited, and operands added or dropped where the junction has been settled
(`Formula.edits_idle`). And these are all such places: wherever the evaluation comes, a formula that
fails makes the whole fail (`Formula.Visits.evaluate_replace`, `Formula.not_visits_iff`).
-/

namespace SheetFormula

namespace Formula

open SheetFormula.Evaluation SheetFormula.Sequence

/-! ### Formulas that keep what is visited -/

section Rules

variable {σ : Type} (env : Environment σ) (token : Option CancellationToken)

/-- A junction is **settled** before a place when an operand before that place is entered and does
not turn out neutral. -/
inductive Settled : Formula → σ → Nat → Prop
  | junction {kind : Junction} {operands : List Formula} {f : Formula} {i place : Nat} {s s₁ : σ}
      (entered : EntersAmong env token (· = .boolean kind.neutral) operands s i f s₁)
      (stops : ∀ s₂, f.evaluate env token s₁ ≠ .ok (.boolean kind.neutral) s₂)
      (before : i < place) : Settled (.junction kind operands) s place

/-- The formula `f'` **keeps** what the evaluation of `f` from a state visits: at each of these
positions it has the same node with as many children, or a junction that is settled before its
operands end. -/
def Keeps (f : Formula) (s : σ) (f' : Formula) : Prop :=
  ∀ p g s₁, f.Visits env token s p g s₁ → ∃ g', f'.at? p = some g' ∧ SameNode g g' ∧
    (g'.children.length = g.children.length ∨ Settled env token g s₁ g'.children.length)

end Rules

variable {σ : Type} {env : Environment σ} {token : Option CancellationToken}
  {f f' g h : Formula} {fs fs' : List Formula} {s s₁ s₂ : σ} {i j n : Nat} {p q : Position}
  {v : Value} {goesOn : Value → Prop}

theorem Keeps.refl (f : Formula) (s : σ) : Keeps env token f s f :=
  fun _ g _ hvisits => ⟨g, hvisits.at?, .refl g, .inl rfl⟩

/-- A child that is entered is kept in its place. -/
theorem Keeps.enter (hkeeps : Keeps env token f s f') (henters : f.Enters env token s i g s₁) :
    ∃ g', f'.children[i]? = some g' ∧ Keeps env token g s₁ g' := by
  obtain ⟨g', hg', -⟩ := hkeeps [i] g s₁ (.enter henters .root)
  obtain ⟨c, hc, -⟩ := Option.bind_eq_some_iff.mp (at?_cons.symm.trans hg')
  refine ⟨c, hc, fun p h s₂ hvisits => ?_⟩
  rw [← at?_cons_of_child hc]
  exact hkeeps (i :: p) h s₂ (.enter henters hvisits)

/-- What is visited is kept in its place. -/
theorem Keeps.visit (hkeeps : Keeps env token f s f') (hvisits : f.Visits env token s p g s₁) :
    ∃ g', f'.at? p = some g' ∧ Keeps env token g s₁ g' := by
  induction hvisits generalizing f' with
  | root => exact ⟨f', rfl, hkeeps⟩
  | enter henters _ ih =>
    obtain ⟨c, hc, hkept⟩ := hkeeps.enter henters
    obtain ⟨g', hg', hbelow⟩ := ih hkept
    exact ⟨g', (at?_cons_of_child hc).trans hg', hbelow⟩

/-! ### The same outcome -/

theorem evaluateAll_eq_of_entered (hlength : fs'.length = fs.length)
    (h : ∀ i g s₁, EntersAmong env token (fun _ => True) fs s i g s₁ →
      ∃ g', fs'[i]? = some g' ∧ g'.evaluate env token s₁ = g.evaluate env token s₁) :
    evaluateAll env token fs' s = evaluateAll env token fs s := by
  induction fs generalizing s fs' with
  | nil => rw [List.length_eq_zero_iff.mp hlength]
  | cons f fs ih =>
    obtain ⟨f', fs', rfl⟩ := List.exists_cons_of_length_eq_add_one hlength
    obtain ⟨_, ⟨⟩, hf⟩ := h 0 f s .first
    rw [evaluateAll, evaluateAll, bind_congr_left hf]
    refine bind_congr_at fun v t hv => bind_congr_left (ih (Nat.succ.inj hlength) ?_)
    exact fun i g s₁ hentered => h (i + 1) g s₁ (.later hv trivial hentered)

theorem evaluateJunction_eq_of_entered {kind : Junction}
    (hlength : fs'.length = fs.length ∨ Settled env token (.junction kind fs) s fs'.length)
    (h : ∀ i g s₁, EntersAmong env token (· = .boolean kind.neutral) fs s i g s₁ →
      ∃ g', fs'[i]? = some g' ∧ g'.evaluate env token s₁ = g.evaluate env token s₁) :
    evaluateJunction env token kind fs' s = evaluateJunction env token kind fs s := by
  induction fs generalizing s fs' with
  | nil =>
    rcases hlength with hlength | ⟨hentered, -, -⟩
    · rw [List.length_eq_zero_iff.mp hlength]
    · cases hentered
  | cons f fs ih =>
    obtain ⟨f', hf', hf⟩ := h 0 f s .first
    obtain ⟨fs', rfl⟩ := List.head?_eq_some_iff.mp (List.head?_eq_getElem?.trans hf')
    rw [evaluateJunction, evaluateJunction, bind_congr_left hf]
    refine bind_congr_at fun v t hv => bind_congr_at fun b u hb => ?_
    obtain ⟨rfl, rfl⟩ := demand_eq_ok hb
    by_cases hneutral : b = kind.neutral
    · rw [if_pos hneutral, if_pos hneutral]
      have hvalue : f.evaluate env token s = .ok (.boolean kind.neutral) u := hneutral ▸ hv
      refine ih ?_ fun i g s₁ hentered => h (i + 1) g s₁ (.later hvalue rfl hentered)
      rcases hlength with hlength | ⟨hentered, hstops, hbefore⟩
      · exact .inl (Nat.succ.inj hlength)
      · cases hentered with
        | first => exact absurd hvalue (hstops u)
        | later hvalue' _ hentered =>
          cases hvalue.symm.trans hvalue'
          exact .inr ⟨hentered, hstops, Nat.lt_of_succ_lt_succ hbefore⟩
    · rw [if_neg hneutral, if_neg hneutral]

/-- **One node**: formulas with the same node, whose children agree where they are entered, have the
same outcome. -/
theorem evaluate_eq_of_entered (hnode : SameNode f f')
    (hlength : f'.children.length = f.children.length ∨ Settled env token f s f'.children.length)
    (h : ∀ i g s₁, f.Enters env token s i g s₁ →
      ∃ g', f'.children[i]? = some g' ∧ g'.evaluate env token s₁ = g.evaluate env token s₁) :
    f'.evaluate env token s = f.evaluate env token s := by
  cases hnode with
  | literal | reference => rfl
  | call name fs fs' =>
    rw [evaluate, evaluate]
    rcases hname : env.get name with _ | v | function
    · rw [resolveFunction, hname]
      rfl
    · rw [resolveFunction, hname]
      rfl
    · rw [resolveFunction_eq hname, pure_bind, pure_bind]
      have hlength : fs'.length = fs.length := hlength.resolve_right fun h => by cases h
      exact bind_congr_left (evaluateAll_eq_of_entered hlength fun i g s₁ hentered =>
        h i g s₁ (.argument hname hentered))
  | negation f f' =>
    obtain ⟨_, ⟨⟩, hf⟩ := h 0 f s .negated
    rw [evaluate, evaluate, bind_congr_left hf]
  | binary op f g f' g' =>
    obtain ⟨_, ⟨⟩, hf⟩ := h 0 f s .left
    rw [evaluate, evaluate, bind_congr_left hf]
    refine bind_congr_at fun v t hv => bind_congr_at fun _ u hu => ?_
    obtain ⟨haccepted, rfl⟩ := ofResult_eq_ok hu
    obtain ⟨_, ⟨⟩, hg⟩ := h 1 g u (.right hv haccepted)
    exact bind_congr_left hg
  | junction kind fs fs' =>
    rw [evaluate, evaluate]
    exact evaluateJunction_eq_of_entered hlength fun i g s₁ hentered => h i g s₁ (.joined hentered)
  | conditional f g k f' g' k' =>
    obtain ⟨_, ⟨⟩, hf⟩ := h 0 f s .condition
    rw [evaluate, evaluate, bind_congr_left hf]
    refine bind_congr_at fun v t hv => bind_congr_at fun b u hb => ?_
    obtain ⟨rfl, rfl⟩ := demand_eq_ok hb
    cases b with
    | true =>
      obtain ⟨_, ⟨⟩, hg⟩ := h 1 g u (.onTrue hv)
      exact hg
    | false =>
      obtain ⟨_, ⟨⟩, hk⟩ := h 2 k u (.onFalse hv)
      exact hk

/-- **A formula that keeps what is visited has the same outcome.** -/
theorem Keeps.evaluate_eq (hkeeps : Keeps env token f s f') :
    f'.evaluate env token s = f.evaluate env token s := by
  induction f using childInduction generalizing f' s with
  | node f ih =>
    obtain ⟨_, ⟨⟩, hnode, hlength⟩ := hkeeps [] f s .root
    refine evaluate_eq_of_entered hnode hlength fun i g s₁ henters => ?_
    obtain ⟨g', hg', hkept⟩ := hkeeps.enter henters
    exact ⟨g', hg', ih g (List.mem_of_getElem? henters.child) hkept⟩

/-! ### The same calls -/

theorem evaluate_eq_ok_of_recorded {s t : σ × List Call}
    (hf : f.evaluate env.recorded token s = .ok v t) : f.evaluate env token s.1 = .ok v t.1 := by
  rw [evaluate_recorded env token f s.1 s.2] at hf
  cases hs : f.evaluate env token s.1 with
  | ok w u =>
    rw [hs] at hf
    cases hf
    rfl
  | error e u =>
    rw [hs] at hf
    cases hf

theorem exists_recorded_eq_ok (hf : f.evaluate env token s = .ok v s₁) (before : List Call) :
    ∃ after, f.evaluate env.recorded token (s, before) = .ok v (s₁, after) := by
  rw [evaluate_recorded, hf]
  exact ⟨_, rfl⟩

/-- What is entered on the record is entered without it. -/
theorem EntersAmong.of_recorded {s t : σ × List Call}
    (hs : EntersAmong env.recorded token goesOn fs s i f t) :
    EntersAmong env token goesOn fs s.1 i f t.1 := by
  induction hs with
  | first => exact .first
  | later value on _ ih => exact .later (evaluate_eq_ok_of_recorded value) on ih

theorem EntersAmong.recorded (hs : EntersAmong env token goesOn fs s i f s₁)
    (before : List Call) :
    ∃ after, EntersAmong env.recorded token goesOn fs (s, before) i f (s₁, after) := by
  induction hs generalizing before with
  | first => exact ⟨before, .first⟩
  | later value on _ ih =>
    obtain ⟨during, hvalue⟩ := exists_recorded_eq_ok value before
    obtain ⟨after, hentered⟩ := ih during
    exact ⟨after, .later hvalue on hentered⟩

theorem Enters.of_recorded {s t : σ × List Call} (hf : f.Enters env.recorded token s i g t) :
    f.Enters env token s.1 i g t.1 := by
  cases hf with
  | argument bound entered =>
    obtain ⟨F, hF, -⟩ := Environment.exists_function_of_recorded bound
    exact .argument hF entered.of_recorded
  | negated => exact .negated
  | left => exact .left
  | right value accepted => exact .right (evaluate_eq_ok_of_recorded value) accepted
  | joined entered => exact .joined entered.of_recorded
  | condition => exact .condition
  | onTrue value => exact .onTrue (evaluate_eq_ok_of_recorded value)
  | onFalse value => exact .onFalse (evaluate_eq_ok_of_recorded value)

theorem Visits.of_recorded {s t : σ × List Call} (hf : f.Visits env.recorded token s p g t) :
    f.Visits env token s.1 p g t.1 := by
  induction hf with
  | root => exact .root
  | enter henters _ ih => exact .enter henters.of_recorded ih

theorem Settled.recorded (hf : Settled env token f s n) (before : List Call) :
    Settled env.recorded token f (s, before) n := by
  obtain ⟨hentered, hstops, hbefore⟩ := hf
  obtain ⟨after, hrecorded⟩ := hentered.recorded before
  exact .junction hrecorded (fun t ht => hstops t.1 (evaluate_eq_ok_of_recorded ht)) hbefore

theorem Keeps.recorded (hkeeps : Keeps env token f s f') (before : List Call) :
    Keeps env.recorded token f (s, before) f' := by
  intro p g t hvisits
  obtain ⟨g', hg', hnode, hlength⟩ := hkeeps p g t.1 hvisits.of_recorded
  exact ⟨g', hg', hnode, hlength.imp_right fun h => h.recorded t.2⟩

/-- **A formula that keeps what is visited makes the same calls.** -/
theorem Keeps.trace_eq (hkeeps : Keeps env token f s f') :
    f'.trace env token s = f.trace env token s := by
  rw [trace, trace, (hkeeps.recorded []).evaluate_eq]

/-! ### Idle edits -/

/-- The formula with the operands from place `kept` on dropped and others added, if it is a
junction. -/
def withOperands (kept : Nat) (others : List Formula) : Formula → Formula
  | .junction kind operands => .junction kind (operands.take kept ++ others)
  | f => f

/-- An **edit** of a formula. -/
inductive Edit where
  /-- Another formula is put in the place of what stands at a position. -/
  | replace (p : Position) (g : Formula)
  /-- The operands of the junction at a position are dropped from place `kept` on, and others are
  added there. -/
  | operands (p : Position) (kept : Nat) (others : List Formula)

/-- The formula after an edit. -/
def Edit.apply (f : Formula) : Edit → Formula
  | .replace p g => f.modifyAt (fun _ => g) p
  | .operands p kept others => f.modifyAt (withOperands kept others) p

/-- An edit is **idle** for the evaluation of a formula from a state when it replaces what is not
visited, or changes the operands of a visited junction after it has been settled. -/
inductive Edit.Idle (env : Environment σ) (token : Option CancellationToken) (f : Formula) (s : σ) :
    Edit → Prop
  | replace {p : Position} {g : Formula} (unvisited : ¬ ∃ h s₁, f.Visits env token s p h s₁) :
      Idle env token f s (.replace p g)
  | operands {p : Position} {kept : Nat} {others : List Formula} {g : Formula} {s₁ : σ}
      (visits : f.Visits env token s p g s₁) (settled : Settled env token g s₁ kept) :
      Idle env token f s (.operands p kept others)

/-- No place after the one that settles a junction is entered. -/
theorem EntersAmong.le_of_stops (hs : EntersAmong env token goesOn fs s i f s₁)
    (hstops : ∀ v s₂, f.evaluate env token s₁ = .ok v s₂ → ¬ goesOn v)
    (hs' : EntersAmong env token goesOn fs s j g s₂) : j ≤ i := by
  induction hs generalizing j with
  | first =>
    cases hs' with
    | first => exact Nat.le_refl _
    | later value on _ => exact absurd on (hstops _ _ value)
  | later value _ _ ih =>
    cases hs' with
    | first => exact Nat.zero_le _
    | later value' _ entered' =>
      cases value.symm.trans value'
      exact Nat.succ_le_succ (ih hstops entered')

/-- What does not stand below a position is kept when something is changed there. -/
theorem Keeps.beside {change : Formula → Formula} (hkeeps : Keeps env token f s f')
    (hvisits : f.Visits env token s q g s₁) (hapart : ¬ p <+: q) :
    ∃ g', (f'.modifyAt change p).at? q = some g' ∧ SameNode g g' ∧
      (g'.children.length = g.children.length ∨ Settled env token g s₁ g'.children.length) := by
  obtain ⟨g', hg', hnode, hlength⟩ := hkeeps q g s₁ hvisits
  obtain ⟨g'', hg'', hnode', hlength'⟩ := at?_modifyAt_of_not_prefix change hapart hg'
  exact ⟨g'', hg'', hnode.trans hnode', hlength' ▸ hlength⟩

/-- What is kept stays so when something is changed where the evaluation does not come. -/
theorem Keeps.modifyAt_of_not_visits {change : Formula → Formula} (hkeeps : Keeps env token f s f')
    (hp : ¬ ∃ h s₁, f.Visits env token s p h s₁) :
    Keeps env token f s (f'.modifyAt change p) := by
  intro q g s₁ hvisits
  refine hkeeps.beside hvisits ?_
  rintro ⟨r, rfl⟩
  obtain ⟨h, s₂, hvisited, -⟩ := hvisits.exists_of_append
  exact hp ⟨h, s₂, hvisited⟩

/-- What is kept stays so when what stands at a position is changed into something that keeps what
is visited there. -/
theorem Keeps.modifyAt_of_visits {change : Formula → Formula} (hkeeps : Keeps env token f s f')
    (hp : f.Visits env token s p g s₁)
    (hchange : ∀ g', Keeps env token g s₁ g' → Keeps env token g s₁ (change g')) :
    Keeps env token f s (f'.modifyAt change p) := by
  intro q h s₂ hvisits
  by_cases hbelow : p <+: q
  · obtain ⟨r, rfl⟩ := hbelow
    obtain ⟨_, _, hvisited, hrest⟩ := hvisits.exists_of_append
    obtain ⟨rfl, rfl⟩ := hvisited.unique hp
    obtain ⟨g', hg', hkept⟩ := hkeeps.visit hvisited
    rw [at?_modifyAt_append hg']
    exact hchange g' hkept r h s₂ hrest
  · exact hkeeps.beside hvisits hbelow

/-- After a junction has been settled its operands may be other ones. -/
theorem Keeps.withOperands (hkeeps : Keeps env token f s f') (hf : Settled env token f s n) :
    Keeps env token f s (f'.withOperands n fs) := by
  cases hf with
  | @junction kind operands c i _ _ t entered stops before =>
    obtain ⟨_, ⟨⟩, hnode, -⟩ := hkeeps [] _ s .root
    cases hnode with
    | junction _ _ operands' =>
      obtain ⟨c', hc', -⟩ := hkeeps.enter (.joined entered)
      have hlast : i < operands'.length := (List.getElem?_eq_some_iff.mp hc').1
      have hlength : i < (operands'.take n).length := by
        rw [List.length_take]
        exact Nat.lt_min.mpr ⟨before, hlast⟩
      intro q g s₁ hvisits
      cases hvisits with
      | root =>
        refine ⟨_, rfl, .junction .., .inr (.junction entered stops ?_)⟩
        rw [Formula.withOperands, children, List.length_append]
        exact Nat.lt_add_right _ hlength
      | @enter _ _ _ _ _ _ j _ henters hbelow =>
        cases henters with
        | joined hentered =>
          -- what is entered stands at the latest where the junction is settled
          have hj : j ≤ i := entered.le_of_stops (fun v s₂ hv on => stops s₂ (on ▸ hv)) hentered
          have hkept : (operands'.take n ++ fs)[j]? = operands'[j]? := by
            rw [List.getElem?_append_left (Nat.lt_of_le_of_lt hj hlength),
              List.getElem?_take_of_lt (Nat.lt_of_le_of_lt hj before)]
          obtain ⟨g', hg', hchild⟩ := hkeeps.enter (.joined hentered)
          rw [Formula.withOperands, at?_cons_of_child (hkept.trans hg')]
          exact hchild _ _ _ hbelow

theorem Keeps.edit {edit : Edit} (hkeeps : Keeps env token f s f')
    (hidle : edit.Idle env token f s) : Keeps env token f s (edit.apply f') := by
  cases hidle with
  | replace unvisited => exact hkeeps.modifyAt_of_not_visits unvisited
  | operands visits settled =>
    exact hkeeps.modifyAt_of_visits visits fun _ hkept => hkept.withOperands settled

/-- **What is not visited does not matter**: idle edits change neither the value or the error of an
evaluation, nor the state in which it leaves the host, nor the calls that it makes. -/
theorem edits_idle (env : Environment σ) (token : Option CancellationToken) (f : Formula) (s : σ)
    (edits : List Edit) (h : ∀ edit ∈ edits, edit.Idle env token f s) :
    (edits.foldl Edit.apply f).evaluate env token s = f.evaluate env token s ∧
    (edits.foldl Edit.apply f).trace env token s = f.trace env token s := by
  have hkeeps : Keeps env token f s (edits.foldl Edit.apply f) :=
    List.foldlRecOn edits Edit.apply (Keeps.refl f s) fun _ hkept edit hmem =>
      hkept.edit (h edit hmem)
  exact ⟨hkeeps.evaluate_eq, hkeeps.trace_eq⟩

/-- The value of `IF(OR(TRUE();FAIL());A();FAIL())` is what `A` returns, whatever stands in the
place of its last branch and after the first operand of `OR`. -/
theorem edits_idle_untaken :
    (∀ edit ∈ [Edit.replace [2] (reference "x"), Edit.operands [0] 1 [call "C" [], call "D" []]],
      edit.Idle counted none (conditional (junction .or [literal (.boolean true), call "FAIL" []])
        (call "A" []) (call "FAIL" [])) 0) ∧
    (conditional (junction .or [literal (.boolean true), call "C" [], call "D" []])
      (call "A" []) (reference "x")).evaluate counted none 0 = .ok (.text "A") 1 ∧
    (conditional (junction .or [literal (.boolean true), call "C" [], call "D" []])
      (call "A" []) (reference "x")).trace counted none 0 = [⟨"A", [], none⟩] := by
  have hreplace : Edit.Idle counted none (conditional
      (junction .or [literal (.boolean true), call "FAIL" []]) (call "A" []) (call "FAIL" [])) 0
      (.replace [2] (reference "x")) := by
    refine .replace ?_
    rintro ⟨g, s, hvisits⟩
    cases hvisits with
    | enter henters _ =>
      cases henters with
      | onFalse value => cases value
  have hoperands : Edit.Idle counted none (conditional
      (junction .or [literal (.boolean true), call "FAIL" []]) (call "A" []) (call "FAIL" [])) 0
      (.operands [0] 1 [call "C" [], call "D" []]) :=
    .operands (.enter .condition .root) (.junction .first (fun _ => nofun) Nat.zero_lt_one)
  have hidle := List.forall_mem_cons.mpr ⟨hreplace,
    List.forall_mem_cons.mpr ⟨hoperands, List.forall_mem_nil _⟩⟩
  exact ⟨hidle, edits_idle counted none _ 0 _ hidle⟩

/-! ### Where the evaluation comes -/

theorem EntersAmong.modify (change : Formula → Formula)
    (hs : EntersAmong env token goesOn fs s i f s₁) :
    EntersAmong env token goesOn (fs.modify i change) s i (change f) s₁ := by
  induction hs with
  | first => exact .first
  | later value on _ ih => exact .later value on ih

/-- A child is entered in one state, whatever it is. -/
theorem Enters.modify (change : Formula → Formula) (hf : f.Enters env token s i g s₁) :
    (f.withChildren (f.children.modify i change)).Enters env token s i (change g) s₁ := by
  cases hf with
  | argument bound entered => exact .argument bound (entered.modify change)
  | negated => exact .negated
  | left => exact .left
  | right value accepted => exact .right value accepted
  | joined entered => exact .joined (entered.modify change)
  | condition => exact .condition
  | onTrue value => exact .onTrue value
  | onFalse value => exact .onFalse value

theorem Visits.modifyAt (change : Formula → Formula) (hf : f.Visits env token s p g s₁) :
    (f.modifyAt change p).Visits env token s p (change g) s₁ := by
  induction hf with
  | root => exact .root
  | enter henters _ ih => exact .enter (henters.modify _) ih

/-- **What is visited matters**: a formula that fails there makes the whole fail. -/
theorem Visits.evaluate_replace {e : RuntimeError} (hf : f.Visits env token s p g s₁)
    (hh : h.evaluate env token s₁ = .error e s₂) :
    (f.modifyAt (fun _ => h) p).evaluate env token s = .error e s₂ :=
  (hf.modifyAt fun _ => h).evaluate_eq hh

/-- **A position is not visited just if anything may stand there.** -/
theorem not_visits_iff : (¬ ∃ g s₁, f.Visits env token s p g s₁) ↔
    ∀ g, (f.modifyAt (fun _ => g) p).evaluate env token s = f.evaluate env token s := by
  constructor
  · exact fun hp g => ((Keeps.refl f s).modifyAt_of_not_visits hp).evaluate_eq
  · rintro hany ⟨g, s₁, hvisits⟩
    -- two formulas whose errors are different
    have hfails : ∀ v : Value, v.kind ≠ .boolean → f.evaluate env token s =
        .error (.expectedBoolean .negation v.kind) s₁ := fun v hv =>
      (hany _).symm.trans (hvisits.evaluate_replace
        (Raises.negation (f := .literal v) rfl hv).evaluate_eq)
    cases (hfails (.text "") nofun).symm.trans (hfails (.number .nan) nofun)

end Formula

end SheetFormula
