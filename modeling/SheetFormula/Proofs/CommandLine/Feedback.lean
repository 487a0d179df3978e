import SheetFormula.Proofs.CommandLine.Arguments
import SheetFormula.Proofs.Evaluation.Steady
import SheetFormula.Proofs.Expression.Storage
import SheetFormula.Proofs.Formula.Printable

/-!
# Canonical texts as formulas

What the command line prints when it is asked for canonical texts may be handed to it again. Each of
these texts is a line of its own, since it is printable; it is not taken for an option, since it
begins with an equals sign; and it is parsed as the expression that the formula was parsed as, so
the program cannot tell it from the formula, whether it prints its value or its canonical text
(`CommandLine.run_canonical`).

Formulas are evaluated one after the other and may draw numbers from the source that they share.
What they print depends on the state of this source only if they call the function that draws.
-/

namespace SheetFormula

namespace CommandLine

/-- Whether a text is the **canonical text** of a formula that is admitted under a ceiling. -/
def IsCanonical (ceiling : Nat) (formula text : String) : Prop :=
  ∃ e, Expression.parse formula ceiling = .ok e ∧ e.encode = text

/-- The state of the host that formulas leave, one after the other. -/
def stateAfter {σ : Type} (draw : σ → Nat × σ) (o : Options) : List String → σ → σ
  | [], s => s
  | formula :: formulas, s =>
    match line draw o formula s with
    | .ok _ s => stateAfter draw o formulas s
    | .error _ s => stateAfter draw o formulas s

/-- Whether the evaluation of one of some formulas **fails**, in the state of the host that the
formulas in front of it leave. -/
def SomeFails {σ : Type} (draw : σ → Nat × σ) (o : Options) (formulas : List String) (s : σ) :
    Prop :=
  ∃ before formula after e err s', formulas = before ++ formula :: after ∧
    Expression.parse formula o.limit = .ok e ∧
    e.evaluate (environment draw o) (stateAfter draw o before s) = .error err s'

variable {σ : Type} {draw : σ → Nat × σ} {o : Options} {m : Nat} {formula text : String}
  {formulas texts : List String} {e : Expression} {s : σ}

/-! ### Canonical texts -/

theorem isCanonical_iff :
    IsCanonical m formula text ↔
      (Expression.parse formula m).toOption.map Expression.encode = some text := by
  unfold IsCanonical
  cases Expression.parse formula m <;> simp [Except.toOption]

instance : Decidable (IsCanonical m formula text) := decidable_of_iff _ isCanonical_iff.symm

namespace IsCanonical

/-- A formula has one canonical text. -/
theorem unique {text' : String} (h : IsCanonical m formula text)
    (h' : IsCanonical m formula text') : text = text' :=
  Option.some.inj ((isCanonical_iff.mp h).symm.trans (isCanonical_iff.mp h'))

/-- From a ceiling of six on, a canonical text is parsed as the formula is. -/
theorem parse_eq (h : IsCanonical m formula text) (hm : 6 ≤ m) :
    Expression.parse text m = Expression.parse formula m := by
  obtain ⟨e, hparse, rfl⟩ := h
  rw [hparse]
  by_cases hhead : formula.toList.head? = some '='
  · exact Expression.parse_encode_formula hhead hparse
  · have hne : formula ≠ "" := by
      rintro rfl
      cases hparse
    cases (Expression.parse_plain hne hhead).symm.trans hparse
    exact ((Expression.parse_encode_plain formula m).resolve_right fun h =>
      absurd hm (Nat.not_le_of_lt h.1)).2

/-- A canonical text is that of itself. -/
theorem self (h : IsCanonical m formula text) (hm : 6 ≤ m) : IsCanonical m text text := by
  have hparse := h.parse_eq hm
  obtain ⟨e, he, hencode⟩ := h
  exact ⟨e, hparse.trans he, hencode⟩

theorem printable (h : IsCanonical m formula text) : Text.Printable text.toList := by
  obtain ⟨e, hparse, rfl⟩ := h
  have hwritable := Formula.Spellable.writable e.root (Expression.spellable_of_parse hparse)
  rw [Expression.encode, String.toList_ofList, Text.printable_cons]
  exact ⟨by decide, hwritable.printable_text⟩

/-- A canonical text is no option. -/
theorem isOption_eq (h : IsCanonical m formula text) : isOption text.toList = false := by
  obtain ⟨e, -, rfl⟩ := h
  rw [Expression.encode, String.toList_ofList]
  rfl

end IsCanonical

theorem exists_canonical (h : ∀ f ∈ formulas, ∃ e, Expression.parse f m = .ok e) :
    ∃ texts, List.Forall₂ (IsCanonical m) formulas texts := by
  induction formulas with
  | nil => exact ⟨[], .nil⟩
  | cons f formulas ih =>
    obtain ⟨⟨e, he⟩, hformulas⟩ := List.forall_mem_cons.mp h
    obtain ⟨texts, htexts⟩ := ih hformulas
    exact ⟨e.encode :: texts, .cons ⟨e, he, rfl⟩ htexts⟩

/-! ### Lines -/

/-- The line for a formula depends on what it is parsed as. -/
theorem line_congr (h : Expression.parse text o.limit = Expression.parse formula o.limit) :
    line draw o text = line draw o formula := by
  unfold line OneShot.value
  simp only [h]

theorem lines_congr (hceiling : 6 ≤ o.limit)
    (h : List.Forall₂ (IsCanonical o.limit) formulas texts) :
    lines draw o texts s = lines draw o formulas s := by
  induction h generalizing s with
  | nil => rfl
  | cons hfirst _ ih =>
    rw [lines, lines, line_congr (hfirst.parse_eq hceiling)]
    simp only [ih]

theorem lines_asked (h : List.Forall₂ (IsCanonical o.limit) formulas texts) :
    lines draw o.asked formulas s = (texts, false) := by
  induction h with
  | nil => rfl
  | @cons formula text _ _ hfirst _ ih =>
    obtain ⟨e, hparse, rfl⟩ := hfirst
    have hline : line draw o.asked formula s = .ok e.encode s := by
      have hasked : Expression.parse formula o.asked.limit = .ok e := hparse
      simp only [line, hasked]
      rfl
    rw [lines, hline]
    simp only [ih]

/-! ### Values -/

/-- The line for an admitted formula is that of its value. -/
theorem line_of_parse (hoff : o.canonical = false)
    (hparse : Expression.parse formula o.limit = .ok e) : line draw o formula s =
      match e.evaluate (environment draw o) s with
      | .ok v s => .ok (describe v) s
      | .error err s => .error (.running err) s := by
  have hline : line draw o formula = (OneShot.value (environment draw o) o.limit
      formula >>= fun v => pure (describe v)) := by
    unfold line
    simp only [hoff]
    rfl
  rw [hline]
  cases hvalue : e.evaluate (environment draw o) s with
  | ok v s' => exact Sequence.bind_eq_of_ok (by simp only [OneShot.value, hparse, hvalue])
  | error err s' => exact Sequence.bind_eq_of_error (by simp only [OneShot.value, hparse, hvalue])

theorem exists_line_eq_error_iff (hoff : o.canonical = false)
    (hparse : Expression.parse formula o.limit = .ok e) :
    (∃ err s', line draw o formula s = .error err s') ↔
      ∃ err s', e.evaluate (environment draw o) s = .error err s' := by
  rw [line_of_parse hoff hparse]
  cases e.evaluate (environment draw o) s <;> simp

theorem stateAfter_cons : stateAfter draw o (formula :: formulas) s =
    stateAfter draw o formulas (stateAfter draw o [formula] s) := by
  simp only [stateAfter]
  cases line draw o formula s <;> rfl

theorem lines_cons_snd : (lines draw o (formula :: formulas) s).2 = true ↔
    (∃ err s', line draw o formula s = .error err s') ∨
      (lines draw o formulas (stateAfter draw o [formula] s)).2 = true := by
  simp only [lines, stateAfter]
  cases line draw o formula s <;> simp

theorem someFails_cons : SomeFails draw o (formula :: formulas) s ↔
    (∃ e err s', Expression.parse formula o.limit = .ok e ∧
      e.evaluate (environment draw o) s = .error err s') ∨
      SomeFails draw o formulas (stateAfter draw o [formula] s) := by
  constructor
  · rintro ⟨before, formula', after, e, err, s', hsplit, hparse, hfails⟩
    cases before with
    | nil =>
      cases hsplit
      exact .inl ⟨e, err, s', hparse, hfails⟩
    | cons first before =>
      cases hsplit
      rw [stateAfter_cons] at hfails
      exact .inr ⟨before, formula', after, e, err, s', rfl, hparse, hfails⟩
  · rintro (⟨e, err, s', hparse, hfails⟩ | hlater)
    · exact ⟨[], formula, formulas, e, err, s', rfl, hparse, hfails⟩
    · obtain ⟨before, formula', after, e, err, s', rfl, hparse, hfails⟩ := hlater
      rw [← stateAfter_cons] at hfails
      exact ⟨formula :: before, formula', after, e, err, s', rfl, hparse, hfails⟩

/-- **A failure is reported just if the evaluation of a formula fails.** -/
theorem lines_snd_iff (hoff : o.canonical = false)
    (haccepted : ∀ f ∈ formulas, ∃ e, Expression.parse f o.limit = .ok e) :
    (lines draw o formulas s).2 = true ↔ SomeFails draw o formulas s := by
  induction formulas generalizing s with
  | nil =>
    constructor
    · intro h
      cases h
    · rintro ⟨before, formula, after, -, -, -, hsplit, -⟩
      simp at hsplit
  | cons formula formulas ih =>
    obtain ⟨⟨e, hparse⟩, hformulas⟩ := List.forall_mem_cons.mp haccepted
    rw [lines_cons_snd, someFails_cons, exists_line_eq_error_iff hoff hparse, ih hformulas, hparse]
    simp

/-! ### The state of the host -/

/-- In the environment of the formulas only the function that draws looks at the state. -/
theorem steadyAt_environment {name : String} (h : name ≠ "RAND") :
    (environment draw o).SteadyAt name := by
  intro function hfunction
  rw [environment, Environment.layers_get_cons, Environment.layers_get_cons] at hfunction
  rcases Option.or_eq_some_iff.mp hfunction with hvalue | ⟨-, hbase⟩
  · obtain ⟨⟨_, v⟩, -, heq⟩ := List.mem_map.mp (Bindings.mem_of_find?_ofList hvalue)
    cases heq
  · rcases Option.or_eq_some_iff.mp hbase with hbase | ⟨-, hnone⟩
    · exact BaseLibrary.steadyAt_environment h function hbase
    · cases hnone

/-- The line for a formula that does not call the function that draws does not depend on the
state of the host. -/
theorem steady_line (hoff : o.canonical = false)
    (hparse : Expression.parse formula o.limit = .ok e) (hcalls : ¬ e.root.Calls "RAND") :
    Sequence.Steady (line draw o formula) := by
  have hsteady : Sequence.Steady (e.evaluate (environment draw o)) := by
    refine Formula.steady_evaluate _ none e.root fun name hname => steadyAt_environment ?_
    rintro rfl
    exact hcalls hname
  rcases hsteady.cases with ⟨v, hv⟩ | ⟨err, herr⟩
  · exact ⟨.ok (describe v), funext fun s => by rw [line_of_parse hoff hparse, hv s]; rfl⟩
  · exact ⟨.error (.running err), funext fun s => by rw [line_of_parse hoff hparse, herr s]; rfl⟩

theorem lines_eq_of_steady (h : ∀ f ∈ formulas, Sequence.Steady (line draw o f)) (s s' : σ) :
    lines draw o formulas s = lines draw o formulas s' := by
  induction formulas generalizing s s' with
  | nil => rfl
  | cons formula formulas ih =>
    obtain ⟨hfirst, hformulas⟩ := List.forall_mem_cons.mp h
    rcases hfirst.cases with ⟨text, hline⟩ | ⟨err, hline⟩
    all_goals
      rw [lines, lines, hline, hline]
      simp only [ih hformulas s s']

/-! ### Output -/

theorem splitOn_output (h : ∀ t ∈ texts, Text.Printable t.toList) :
    (String.join (texts.map (· ++ "\n"))).toList.splitOn '\n' =
      texts.map String.toList ++ [[]] := by
  induction texts with
  | nil => rfl
  | cons t texts ih =>
    obtain ⟨ht, htexts⟩ := List.forall_mem_cons.mp h
    have hline : ∀ c ∈ t.toList, (c == '\n') = false := by
      intro c hc
      rw [beq_eq_false_iff_ne]
      rintro rfl
      cases ht '\n' hc
    have hnewline : (t ++ "\n" ++ String.join (texts.map (· ++ "\n"))).toList =
        t.toList ++ '\n' :: (String.join (texts.map (· ++ "\n"))).toList := by
      simp
    rw [List.map_cons, String.join_cons, hnewline, List.map_cons, List.cons_append, ← ih htexts]
    exact List.splitOnP_append_cons_of_forall_mem hline '\n' (by decide) _

/-! ### Runs -/

section Runs

variable {packages : Packages σ} {args opts : List String}

/-- The lines for formulas do not depend on which formulas the options hold. -/
theorem lines_with (more : List String) : lines draw { o with formulas := more } formulas s =
    lines draw o formulas s := by
  induction formulas generalizing s with
  | nil => rfl
  | cons formula formulas ih =>
    have hline : line draw { o with formulas := more } formula = line draw o formula := rfl
    simp only [lines, hline, ih]

/-- Arguments that are read by the rules have their formulas reported. -/
theorem run_eq (hread : packages.read.KeepsRules)
    (h : Reads (readBinding packages.json) {} args o) (hne : o.formulas ≠ []) :
    packages.run args s =
      ⟨String.join ((lines packages.draw o o.formulas s).1.map (· ++ "\n")),
        if (lines packages.draw o o.formulas s).2 then 1 else 0⟩ := by
  rw [Packages.run, hread h hne]
  rfl

/-- Options that ask for canonical texts have them reported. -/
theorem run_asked (hread : packages.read.KeepsRules)
    (h : Reads (readBinding packages.json) {} args o) (hoff : o.canonical = false)
    (hne : o.formulas ≠ []) (htexts : List.Forall₂ (IsCanonical o.limit) o.formulas texts) :
    packages.run ("-c" :: args) s = ⟨String.join (texts.map (· ++ "\n")), 0⟩ := by
  have hlines : lines packages.draw o.asked o.asked.formulas s = (texts, false) :=
    lines_asked htexts
  rw [run_eq hread (h.canonical_cons hoff) hne, hlines]
  rfl

theorem forall_mem_canonical (h : List.Forall₂ (IsCanonical m) formulas texts) :
    ∀ t ∈ texts, ∃ f, IsCanonical m f t := by
  have hboth := h.flip.imp fun t f h => And.intro (Exists.intro f h) h
  exact ((List.forall₂_and_left texts formulas).mp hboth).1

theorem ne_nil_of_canonical (h : List.Forall₂ (IsCanonical m) formulas texts)
    (hne : formulas ≠ []) : texts ≠ [] := by
  rintro rfl
  cases h
  exact hne rfl

/-- Canonical texts behind options are read as formulas. -/
theorem reads_texts {bind : BindingReader} (hopts : Reads bind {} opts { o with formulas := [] })
    (htexts : List.Forall₂ (IsCanonical m) formulas texts) :
    Reads bind {} (opts ++ texts) { o with formulas := texts } := by
  refine hopts.append fun t ht => ?_
  obtain ⟨f, hcanonical⟩ := forall_mem_canonical htexts t ht
  exact hcanonical.isOption_eq

/-- **What is printed as canonical texts may be handed in again.** Let the package that reads
arguments keep to the rules, let arguments hold formulas that are admitted under a ceiling of six or
more, and let others set the same options without formulas. Asked for canonical texts, the program
succeeds and prints a line for each formula, its canonical text, in which there is no control
character. Handed in again, these texts are printed as they are if canonical texts are asked for,
and otherwise have the output and the exit code that the formulas have, the code being one just if
the evaluation of a formula fails. Unless a formula calls the function that draws, this is so from
any two states of the host. -/
theorem run_canonical (packages : Packages σ) (hread : packages.read.KeepsRules)
    (hargs : Reads (readBinding packages.json) {} args o) (hne : o.formulas ≠ [])
    (hopts : Reads (readBinding packages.json) {} opts { o with formulas := [] })
    (hoff : o.canonical = false) (hceiling : 6 ≤ o.limit)
    (haccepted : ∀ f ∈ o.formulas, ∃ e, Expression.parse f o.limit = .ok e) (s : σ) :
    ∃ texts, List.Forall₂ (IsCanonical o.limit) o.formulas texts ∧
      (∀ t ∈ texts, ∀ c ∈ t.toList, Unicode.isControl c = false) ∧
      (packages.run ("-c" :: args) s).code = 0 ∧
      (packages.run ("-c" :: args) s).output.toList.splitOn '\n' =
        texts.map String.toList ++ [[]] ∧
      (∀ s', packages.run ("-c" :: (opts ++ texts)) s' = packages.run ("-c" :: args) s) ∧
      packages.run (opts ++ texts) s = packages.run args s ∧
      ((packages.run args s).code = 1 ∧ SomeFails packages.draw o o.formulas s ∨
        (packages.run args s).code = 0 ∧ ¬ SomeFails packages.draw o o.formulas s) ∧
      ((∀ f ∈ o.formulas, ∀ e, Expression.parse f o.limit = .ok e → ¬ e.root.Calls "RAND") →
        ∀ s', packages.run (opts ++ texts) s' = packages.run args s) := by
  obtain ⟨texts, htexts⟩ := exists_canonical haccepted
  have htextsne := ne_nil_of_canonical htexts hne
  have hagain := reads_texts hopts htexts
  have hprintable : ∀ t ∈ texts, Text.Printable t.toList := by
    intro t ht
    obtain ⟨f, hcanonical⟩ := forall_mem_canonical htexts t ht
    exact hcanonical.printable
  have hself : List.Forall₂ (IsCanonical o.limit) texts texts := by
    refine List.forall₂_same.mpr fun t ht => ?_
    obtain ⟨f, hcanonical⟩ := forall_mem_canonical htexts t ht
    exact hcanonical.self hceiling
  have hfirst : ∀ s, packages.run ("-c" :: args) s = ⟨String.join (texts.map (· ++ "\n")), 0⟩ :=
    fun s => run_asked hread hargs hoff hne htexts
  have hsecond : ∀ s, packages.run ("-c" :: (opts ++ texts)) s =
      ⟨String.join (texts.map (· ++ "\n")), 0⟩ :=
    fun s => run_asked hread hagain hoff htextsne hself
  have hvalues : ∀ s, packages.run (opts ++ texts) s = packages.run args s := by
    intro s
    rw [run_eq hread hagain htextsne, run_eq hread hargs hne]
    simp only [lines_with, lines_congr hceiling htexts]
  refine ⟨texts, htexts, hprintable, by rw [hfirst s], ?_, fun s' => by rw [hsecond s', hfirst s],
    hvalues s, ?_, fun hcalls s' => ?_⟩
  · rw [hfirst s]
    exact splitOn_output hprintable
  · rw [← lines_snd_iff hoff haccepted, run_eq hread hargs hne]
    cases (lines packages.draw o o.formulas s).2 <;> simp
  · have hsteady : ∀ f ∈ o.formulas, Sequence.Steady (line packages.draw o f) := by
      intro f hf
      obtain ⟨e, hparse⟩ := haccepted f hf
      exact steady_line hoff hparse (hcalls f hf e hparse)
    rw [hvalues s', run_eq hread hargs hne, run_eq hread hargs hne,
      lines_eq_of_steady hsteady s' s]

/-- Options and formulas may be mixed, and a text that begins with a dash may stand behind two
dashes; the canonical texts need neither. -/
theorem run_canonical_mixed :
    let args := ["-D", "A=1", "=A+1", "--max-depth", "64", "--", "-x"]
    let again := ["-DA=1", "--max-depth=64", "=A + 1", "=\"-x\""]
    run ("-c" :: again) ⟨0⟩ = run ("-c" :: args) ⟨0⟩ ∧ run again ⟨0⟩ = run args ⟨0⟩ := by
  intro args again
  let o : Options := ⟨[("A", .number 1)], some 64, false, false, ["=A+1", "-x"]⟩
  have hletters : ReadsLetters (readBinding standIns.json) {} ['D'] (.awaiting {} .binding) :=
    .valued rfl
  let bound : Options := { o with ceiling := none, formulas := [] }
  have hbinding : Options.put (readBinding standIns.json) {} "A=1".toList .binding = some bound :=
    rfl
  have hceiling : bound.put (readBinding standIns.json) "64".toList .maxDepth =
      some { o with formulas := [] } := rfl
  have hargs : Reads (readBinding standIns.json) {} args o :=
    .valued (.letters (List.cons_ne_nil _ _) hletters) rfl rfl
      (.formula rfl (.valued (.valued .maxDepth) rfl rfl .dashes))
  have hopts : Reads (readBinding standIns.json) {} ["-DA=1", "--max-depth=64"]
      { o with formulas := [] } :=
    .whole (.letters (List.cons_ne_nil _ _) (.joined rfl (by decide) hbinding))
      (.whole (.equals hceiling) .nil)
  have hfirst : IsCanonical 64 "=A+1" "=A + 1" := by decide +kernel
  have hsecond : IsCanonical 64 "-x" "=\"-x\"" := by decide +kernel
  have haccepted : ∀ f ∈ o.formulas, ∃ e, Expression.parse f o.limit = .ok e :=
    List.forall_mem_cons.mpr ⟨hfirst.imp fun _ => And.left,
      List.forall_mem_singleton.mpr (hsecond.imp fun _ => And.left)⟩
  obtain ⟨texts, htexts, -, -, -, hcanonical, hvalues, -⟩ :=
    run_canonical standIns Reader.keepsRules_read hargs (List.cons_ne_nil _ _) hopts rfl
      (by decide) haccepted ⟨0⟩
  obtain rfl : texts = ["=A + 1", "=\"-x\""] := by
    cases htexts with
    | cons hfirst' hrest =>
      cases hrest with
      | cons hsecond' hnil =>
        cases hnil
        rw [hfirst'.unique hfirst, hsecond'.unique hsecond]
  exact ⟨hcanonical ⟨0⟩, hvalues⟩

end Runs

end CommandLine

end SheetFormula
