import Mathlib.Logic.Relation
import SheetFormula.Token

/-!
# Grouping parentheses

Parentheses that follow a name belong to the name; all others only **group** what stands between
them. One list of tokens **ungroups** to another when this is left of it after some pairs of
grouping parentheses have been dropped, one after the other. This may be done in any place that is
not right behind a name (`Ungroups.within`), and every pair that is dropped costs two tokens
(`Ungroups.length_le`).
-/

namespace SheetFormula

/-! ### Matching parentheses -/

/-- Whether tokens are **balanced**: each opening parenthesis in them has a closing one that matches
it, and conversely. -/
inductive Balanced : List Token → Prop
  | nil : Balanced []
  | token {t : Token} {ts : List Token} (opening : t ≠ .symbol .leftParen)
      (closing : t ≠ .symbol .rightParen) (rest : Balanced ts) : Balanced (t :: ts)
  | pair {inner ts : List Token} (within : Balanced inner) (rest : Balanced ts) :
      Balanced (.symbol .leftParen :: (inner ++ .symbol .rightParen :: ts))

namespace Balanced

variable {t : Token} {ts us : List Token}

theorem singleton (hopening : t ≠ .symbol .leftParen) (hclosing : t ≠ .symbol .rightParen) :
    Balanced [t] :=
  .token hopening hclosing .nil

theorem append (h : Balanced ts) (h' : Balanced us) : Balanced (ts ++ us) := by
  induction h with
  | nil => exact h'
  | token opening closing _ ih => exact .token opening closing ih
  | pair within _ _ ih =>
    rw [List.cons_append, List.append_assoc, List.cons_append]
    exact .pair within ih

theorem enclosed (h : Balanced ts) :
    Balanced (.symbol .leftParen :: (ts ++ [.symbol .rightParen])) :=
  .pair h .nil

end Balanced

/-! ### Dropping pairs -/

/-- Whether the last of the tokens, if there are any, is no name, so that a parenthesis behind them
groups. -/
def GroupsBehind (before : List Token) : Prop := ∀ name, before.getLast? ≠ some (.name name)

/-- **One pair of grouping parentheses is dropped**, an opening one and the closing one that matches
it, and nothing else. -/
inductive DropsPair : List Token → List Token → Prop
  | drop {before inner : List Token} (after : List Token) (groups : GroupsBehind before)
      (matching : Balanced inner) :
      DropsPair (before ++ .symbol .leftParen :: (inner ++ .symbol .rightParen :: after))
        (before ++ (inner ++ after))

/-- Whether one list of tokens **ungroups** to another: pairs of grouping parentheses are dropped,
any number of them. -/
def Ungroups : List Token → List Token → Prop := Relation.ReflTransGen DropsPair

theorem groupsBehind_nil : GroupsBehind [] := fun _ => nofun

theorem GroupsBehind.append {before ts : List Token} (h : GroupsBehind before)
    (h' : GroupsBehind ts) : GroupsBehind (before ++ ts) := by
  intro name hname
  rw [List.getLast?_append, Option.or_eq_some_iff] at hname
  rcases hname with hname | ⟨-, hname⟩
  · exact h' name hname
  · exact h name hname

theorem groupsBehind_symbol (ts : List Token) (s : Symbol) :
    GroupsBehind (ts ++ [.symbol s]) := by
  intro name
  simp

/-- A pair may be dropped in a part that does not stand behind a name. -/
theorem DropsPair.within {before ts us : List Token} (h : DropsPair ts us)
    (hbefore : GroupsBehind before) (after : List Token) :
    DropsPair (before ++ (ts ++ after)) (before ++ (us ++ after)) := by
  cases h with
  | drop rest groups matching =>
    simpa only [List.append_assoc, List.cons_append] using
      DropsPair.drop (rest ++ after) (hbefore.append groups) matching

namespace Ungroups

variable {before ts us vs ts' us' : List Token}

theorem refl (ts : List Token) : Ungroups ts ts := Relation.ReflTransGen.refl

theorem trans (h : Ungroups ts us) (h' : Ungroups us vs) : Ungroups ts vs :=
  Relation.ReflTransGen.trans h h'

/-- A part that does not stand behind a name may be ungrouped. -/
theorem within (h : Ungroups ts us) (hbefore : GroupsBehind before) (after : List Token) :
    Ungroups (before ++ (ts ++ after)) (before ++ (us ++ after)) :=
  Relation.ReflTransGen.lift (fun vs => before ++ (vs ++ after))
    (fun _ _ hdrops => hdrops.within hbefore after) _ _ h

/-- Two parts with a symbol between them may both be ungrouped. -/
theorem joined (s : Symbol) (h : Ungroups ts us) (h' : Ungroups ts' us') :
    Ungroups (ts ++ .symbol s :: ts') (us ++ .symbol s :: us') := by
  have hfirst := h.within groupsBehind_nil (.symbol s :: ts')
  have hsecond := h'.within (groupsBehind_symbol us s) []
  simp only [List.append_nil, List.append_assoc, List.singleton_append] at hsecond
  exact hfirst.trans hsecond

/-- What stands between parentheses may be ungrouped, whatever they are there for. -/
theorem enclosed (before : List Token) (h : Ungroups ts us) :
    Ungroups (before ++ .symbol .leftParen :: ts) (before ++ .symbol .leftParen :: us) := by
  have hwithin := h.within (groupsBehind_symbol before .leftParen) []
  simpa only [List.append_nil, List.append_assoc, List.singleton_append] using hwithin

/-- Grouping parentheses around everything may be dropped. -/
theorem drop (h : Balanced ts) :
    Ungroups (.symbol .leftParen :: (ts ++ [.symbol .rightParen])) ts := by
  have hdrops := DropsPair.drop [] groupsBehind_nil h
  rw [List.append_nil, List.nil_append, List.nil_append] at hdrops
  exact .single hdrops

/-- **Every pair costs two tokens**, so none are gained. -/
theorem length_le (h : Ungroups ts us) : us.length ≤ ts.length := by
  induction h with
  | refl => exact Nat.le_refl _
  | tail _ hdrops ih =>
    refine Nat.le_trans ?_ ih
    cases hdrops with
    | drop after groups matching =>
      simp only [List.length_append, List.length_cons]
      omega

end Ungroups

end SheetFormula
