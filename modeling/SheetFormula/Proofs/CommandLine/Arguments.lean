import Mathlib.Data.List.Forall2
import SheetFormula.CommandLine
import SheetFormula.Proofs.Binary64.ReadBack

/-!
# What arguments are read as

The rules of arguments (`CommandLine.Reads`) are kept by the reader that stands in for the package
which reads them (`CommandLine.Reader.keepsRules_read`). Of the rules alone it follows, by induction
over them, that formulas may follow any arguments, as long as they are not options by their form
(`CommandLine.Reads.append`), and that an option that asks for canonical texts may precede any
arguments that do not ask for them (`CommandLine.Reads.canonical_cons`). Whatever bindings, ceiling
and formulas are wanted, there are arguments that ask for them (`CommandLine.reads_spelled`).
-/

namespace SheetFormula

namespace CommandLine

variable {bind : BindingReader} {o o' : Options} {p : Progress} {cs value : List Char}
  {option : ValueOption} {arg : String} {args texts : List String}

/-! ### The reader -/

namespace Reader

theorem joinedValue?_of_ne {first : Char} (h : first ≠ '=') :
    joinedValue? (first :: value) = some (first :: value) := by
  unfold joinedValue?
  split <;> simp_all

theorem readLetters_eq (h : ReadsLetters bind o cs p) : readLetters bind o cs = .ok p := by
  induction h with
  | nil => rfl
  | @flag _ _ f _ _ set _ ih =>
    cases f
    all_goals
      rw [Flag.letter, readLetters, set]
      exact ih
  | @valued _ option _ letter =>
    cases option <;> cases letter
    rfl
  | @joined _ _ option _ _ _ letter plain put =>
    cases option <;> cases letter
    rw [readLetters, joinedValue?_of_ne plain, readValued, put]
    rfl
  | @equals _ _ option _ _ letter put =>
    cases option <;> cases letter
    rw [readLetters, joinedValue?, readValued, put]
    rfl

theorem readLong_flag (f : Flag) :
    readLong bind o f.name.toList = (accepted (o.set f)).map .done := by
  cases f <;> rfl

theorem readLong_valued (option : ValueOption) :
    readLong bind o option.name.toList = .ok (.awaiting o option) := by
  cases option <;> rfl

theorem readLong_equals (option : ValueOption) :
    readLong bind o (option.name.toList ++ '=' :: value) =
      readValued bind o option (some value) := by
  cases option <;> rfl

theorem readOption_eq (h : ReadsOption bind o cs p) : readOption bind o cs = .ok p := by
  cases h with
  | flag set =>
    rw [readOption, readLong_flag, set]
    rfl
  | valued option => rw [readOption, readLong_valued]
  | equals put =>
    rw [readOption, readLong_equals, readValued, put]
    rfl
  | @letters cs _ ne letters =>
    rw [← readLetters_eq letters]
    cases letters with
    | nil => exact absurd rfl ne
    | @flag _ _ f => cases f <;> rfl
    | @valued _ option _ letter | @joined _ _ option _ _ _ letter | @equals _ _ option _ _ letter =>
      cases option <;> cases letter
      rfl

theorem isOption_of_reads (h : ReadsOption bind o cs p) : isOption cs = true := by
  cases h with
  | flag set | valued option | equals put => rfl
  | @letters cs _ ne letters =>
    cases cs with
    | nil => exact absurd rfl ne
    | cons c cs => rfl

/-- Two dashes by themselves are no option. -/
theorem ne_dashes_of_reads (h : ReadsOption bind o arg.toList p) : arg ≠ "--" := by
  rintro rfl
  cases readOption_eq h

theorem readAll_formula (plain : isOption arg.toList = false) :
    readAll bind o (arg :: args) = readAll bind (o.add arg) args := by
  have hne : arg ≠ "--" := by
    rintro rfl
    cases plain
  rw [readAll.eq_def]
  dsimp only
  rw [if_neg hne, plain, if_neg Bool.false_ne_true]

theorem readAll_whole (h : ReadsOption bind o arg.toList (.done o')) :
    readAll bind o (arg :: args) = readAll bind o' args := by
  rw [readAll.eq_def]
  dsimp only
  rw [if_neg (ne_dashes_of_reads h), if_pos (isOption_of_reads h), readOption_eq h]

theorem readAll_valued {o₁ : Options} {value : String}
    (h : ReadsOption bind o arg.toList (.awaiting o₁ option))
    (plain : isOption value.toList = false) (put : o₁.put bind value.toList option = some o') :
    readAll bind o (arg :: value :: args) = readAll bind o' args := by
  rw [readAll.eq_def]
  dsimp only
  rw [if_neg (ne_dashes_of_reads h), if_pos (isOption_of_reads h), readOption_eq h]
  dsimp only
  rw [plain, if_neg Bool.false_ne_true, put]

theorem readAll_eq (h : Reads bind o args o') : readAll bind o args = .ok o' := by
  induction h with
  | nil => rfl
  | dashes =>
    rw [readAll.eq_def]
    exact if_pos rfl
  | formula plain _ ih => rw [readAll_formula plain, ih]
  | whole done _ ih => rw [readAll_whole done, ih]
  | valued awaiting plain put _ ih => rw [readAll_valued awaiting plain put, ih]

/-- **The reader keeps to the rules.** -/
theorem keepsRules_read : ArgumentReader.KeepsRules read := by
  intro bind args o h hne
  rw [read, readAll_eq h]
  exact if_neg (by simpa using hne)

end Reader

/-! ### Formulas behind other arguments -/

theorem reads_formulas (h : ∀ t ∈ texts, isOption t.toList = false) :
    Reads bind o texts (o.addAll texts) := by
  induction texts generalizing o with
  | nil =>
    rw [Options.addAll, List.append_nil]
    exact .nil
  | cons t texts ih =>
    obtain ⟨ht, htexts⟩ := List.forall_mem_cons.mp h
    have hrest : Reads bind (o.add t) texts ((o.add t).addAll texts) := ih htexts
    rw [Options.add, Options.addAll, List.append_assoc] at hrest
    exact .formula ht hrest

theorem Options.addAll_addAll (o : Options) (formulas more : List String) :
    (o.addAll formulas).addAll more = o.addAll (formulas ++ more) := by
  simp only [Options.addAll, List.append_assoc]

/-- **Formulas may follow** any arguments if they are no options by their form. -/
theorem Reads.append (h : Reads bind o args o') (htexts : ∀ t ∈ texts, isOption t.toList = false) :
    Reads bind o (args ++ texts) (o'.addAll texts) := by
  induction h with
  | nil => exact reads_formulas htexts
  | dashes =>
    rw [Options.addAll_addAll]
    exact .dashes
  | formula plain _ ih => exact .formula plain ih
  | whole done _ ih => exact .whole done ih
  | valued awaiting plain put _ ih => exact .valued awaiting plain put ih

/-! ### Asking for canonical texts -/

/-- The options with canonical texts asked for. -/
def Options.asked (o : Options) : Options := { o with canonical := true }

namespace Progress

/-- The options that have been read. -/
def options : Progress → Options
  | done o => o
  | awaiting o _ => o

/-- The progress with canonical texts asked for before. -/
def asked : Progress → Progress
  | done o => .done o.asked
  | awaiting o option => .awaiting o.asked option

end Progress

/-- A flag that leaves canonical texts unasked for is the other one, which does not look at it. -/
theorem asked_set {f : Flag} (h : o.set f = some o') (hoff : o'.canonical = false) :
    o.asked.set f = some o'.asked ∧ o.canonical = false := by
  cases f <;> simp only [Options.set] at h ⊢ <;> split at h
  case canonical.isTrue => cases h
  case canonical.isFalse =>
    cases h
    cases hoff
  case verbose.isTrue => cases h
  case verbose.isFalse hverbose =>
    cases h
    exact ⟨if_neg hverbose, hoff⟩

theorem asked_put (h : o.put bind value option = some o') :
    o.asked.put bind value option = some o'.asked ∧ o'.canonical = o.canonical := by
  cases option with
  | binding =>
    obtain ⟨v, hv, heq⟩ := Option.bind_eq_some_iff.mp h
    cases heq
    exact ⟨Option.bind_eq_some_iff.mpr ⟨v, hv, rfl⟩, rfl⟩
  | maxDepth =>
    obtain ⟨n, hn, hset⟩ := Option.bind_eq_some_iff.mp h
    split at hset
    · cases hset
    · next hceiling =>
      cases hset
      exact ⟨Option.bind_eq_some_iff.mpr ⟨n, hn, if_neg hceiling⟩, rfl⟩

/-- Joined letters that do not ask for canonical texts are read as well if these have been asked
for. -/
theorem ReadsLetters.asked (h : ReadsLetters bind o cs p) (hp : p.options.canonical = false) :
    ReadsLetters bind o.asked cs p.asked ∧ o.canonical = false := by
  induction h with
  | nil => exact ⟨.nil, hp⟩
  | flag set _ ih =>
    obtain ⟨hrest, hoff⟩ := ih hp
    obtain ⟨hset, ho⟩ := asked_set set hoff
    exact ⟨.flag hset hrest, ho⟩
  | valued letter => exact ⟨.valued letter, hp⟩
  | joined letter plain put =>
    obtain ⟨hput, ho⟩ := asked_put put
    exact ⟨.joined letter plain hput, ho.symm.trans hp⟩
  | equals letter put =>
    obtain ⟨hput, ho⟩ := asked_put put
    exact ⟨.equals letter hput, ho.symm.trans hp⟩

theorem ReadsOption.asked (h : ReadsOption bind o cs p) (hp : p.options.canonical = false) :
    ReadsOption bind o.asked cs p.asked ∧ o.canonical = false := by
  cases h with
  | flag set =>
    obtain ⟨hset, ho⟩ := asked_set set hp
    exact ⟨.flag hset, ho⟩
  | valued option => exact ⟨.valued option, hp⟩
  | equals put =>
    obtain ⟨hput, ho⟩ := asked_put put
    exact ⟨.equals hput, ho.symm.trans hp⟩
  | letters ne letters =>
    obtain ⟨hletters, ho⟩ := letters.asked hp
    exact ⟨.letters ne hletters, ho⟩

theorem Reads.asked (h : Reads bind o args o') (hoff : o'.canonical = false) :
    Reads bind o.asked args o'.asked ∧ o.canonical = false := by
  induction h with
  | nil => exact ⟨.nil, hoff⟩
  | dashes => exact ⟨.dashes, hoff⟩
  | formula plain _ ih =>
    obtain ⟨hrest, hadd⟩ := ih hoff
    exact ⟨.formula plain hrest, hadd⟩
  | whole done _ ih =>
    obtain ⟨hrest, ho₁⟩ := ih hoff
    obtain ⟨hdone, ho⟩ := done.asked ho₁
    exact ⟨.whole hdone hrest, ho⟩
  | valued awaiting plain put _ ih =>
    obtain ⟨hrest, ho₂⟩ := ih hoff
    obtain ⟨hput, ho₁⟩ := asked_put put
    obtain ⟨hawaiting, ho⟩ := awaiting.asked (ho₁.symm.trans ho₂)
    exact ⟨.valued hawaiting plain hput hrest, ho⟩

/-- **Canonical texts may be asked for** in front of any arguments that do not ask for them. -/
theorem Reads.canonical_cons (h : Reads bind {} args o) (hoff : o.canonical = false) :
    Reads bind {} ("-c" :: args) o.asked := by
  have hset : Options.set {} .canonical = some (Options.asked {}) := rfl
  exact .whole (.letters (List.cons_ne_nil _ _) (.flag hset .nil)) (h.asked hoff).1

/-! ### Arguments that are wanted -/

/-- Arguments that **spell** bindings, a ceiling and formulas. -/
def spelled (bindings : List String) (ceiling : Nat) (formulas : List String) : List String :=
  bindings.map ("--var=" ++ ·) ++ ("--max-depth=" ++ toString ceiling) :: "--" :: formulas

theorem word?_toDigits {n : Nat} (h : n < Word.limit) : word? (Nat.toDigits 10 n) = some n := by
  have hdigits : ∀ c ∈ Nat.toDigits 10 n, Text.isDigit c = true := fun c hc =>
    Binary64.isDigit_of_mem_toDigits hc
  have hvalue : Binary64.digitsValue (Nat.toDigits 10 n) = n := Nat.ofDigitChars_ten_toDigits
  have hne : Nat.toDigits 10 n ≠ [] := Nat.toDigits_ne_nil
  unfold word?
  split
  · next cs heq =>
    rw [heq] at hdigits
    cases hdigits '+' (List.mem_cons_self ..)
  · dsimp only
    rw [hvalue, if_pos]
    simp only [List.isEmpty_eq_false_iff.mpr hne, Bool.not_false, Bool.true_and, Bool.and_eq_true,
      List.all_eq_true, decide_eq_true_eq]
    exact ⟨hdigits, h⟩

theorem reads_bindings {bindings : List String} {assignments : List (String × Value)}
    (h : List.Forall₂ (fun b v => bind b = .ok v) bindings assignments)
    (rest : Reads bind { o with assignments := o.assignments ++ assignments } args o') :
    Reads bind o (bindings.map ("--var=" ++ ·) ++ args) o' := by
  induction h generalizing o with
  | nil =>
    rw [List.append_nil] at rest
    exact rest
  | @cons b v bindings assignments hfirst _ ih =>
    have hput : o.put bind b.toList .binding =
        some { o with assignments := o.assignments ++ [v] } := by
      rw [Options.put, String.ofList_toList, hfirst]
      rfl
    have hoption : ReadsOption bind o ("--var=" ++ b).toList
        (.done { o with assignments := o.assignments ++ [v] }) := by
      rw [String.toList_append]
      exact .equals hput
    rw [← List.singleton_append, ← List.append_assoc] at rest
    exact .whole hoption (ih rest)

/-- **All bindings, ceilings and formulas can be asked for.** -/
theorem reads_spelled {bindings formulas : List String} {assignments : List (String × Value)}
    {ceiling : Nat} (h : List.Forall₂ (fun b v => bind b = .ok v) bindings assignments)
    (hceiling : ceiling < Word.limit) :
    Reads bind {} (spelled bindings ceiling formulas)
      ⟨assignments, some ceiling, false, false, formulas⟩ := by
  have hput (o : Options) (ho : o.ceiling = none) :
      o.put bind (toString ceiling).toList .maxDepth = some { o with ceiling := some ceiling } := by
    have hdigits : (toString ceiling).toList = Nat.toDigits 10 ceiling := by simp
    rw [Options.put, hdigits, word?_toDigits hceiling, ho]
    rfl
  have hoption : ReadsOption bind ⟨assignments, none, false, false, []⟩
      ("--max-depth=" ++ toString ceiling).toList
      (.done ⟨assignments, some ceiling, false, false, []⟩) := by
    rw [String.toList_append]
    exact .equals (hput _ rfl)
  exact reads_bindings h (.whole hoption .dashes)

end CommandLine

end SheetFormula
