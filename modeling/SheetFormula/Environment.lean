import SheetFormula.Call

/-!
# Environments

An environment says what the names in a formula are bound to: a value, a function of the host, or
nothing. Environments are laid in layers, of which the first that binds a name decides, and the
usual layer is a finite set of bindings.
-/

namespace SheetFormula

/-- What a name is bound to. -/
inductive Binding (σ : Type) where
  | value (v : Value)
  | function (f : NativeFunction σ)

/-- An **environment**: the binding of each name that has one. -/
structure Environment (σ : Type) where
  /-- The binding of a name. It is the same at all times: lookups that depend on the state of the
  host, or that change it, are left out. -/
  get : String → Option (Binding σ)

namespace Environment

variable {σ : Type}

/-- The environment that binds nothing. -/
def empty : Environment σ := ⟨fun _ => none⟩

/-- Environments in layers; the first that binds a name decides. -/
def layers (es : List (Environment σ)) : Environment σ :=
  ⟨fun name => es.findSome? fun e => e.get name⟩

end Environment

/-! ### Finite sets of bindings -/

/-- A finite set of **bindings**, at most one for each name. -/
structure Bindings (σ : Type) where
  entries : List (String × Binding σ)
  nodup : (entries.map Prod.fst).Nodup := by simp

namespace Bindings

variable {σ : Type}

/-- No bindings. -/
def empty : Bindings σ where
  entries := []

/-- The binding of a name. -/
def find? (b : Bindings σ) (name : String) : Option (Binding σ) := b.entries.lookup name

/-- The bindings with one more, which takes the place of any other of its name. -/
def insert (b : Bindings σ) (name : String) (binding : Binding σ) : Bindings σ where
  entries := (name, binding) :: b.entries.filter fun entry => entry.1 != name
  nodup := by
    have kept : ((b.entries.filter fun entry => entry.1 != name).map Prod.fst).Nodup :=
      List.Nodup.sublist (List.filter_sublist.map _) b.nodup
    simpa using kept

/-- The bindings of a list, of which a later one takes the place of an earlier one of its name. -/
def ofList (entries : List (String × Binding σ)) : Bindings σ :=
  entries.foldl (fun b (name, binding) => b.insert name binding) empty

/-- The number of bindings. -/
def size (b : Bindings σ) : Nat := b.entries.length

/-- Whether there are no bindings. -/
def isEmpty (b : Bindings σ) : Bool := b.entries.isEmpty

/-- The environment with these bindings and no others. -/
def toEnvironment (b : Bindings σ) : Environment σ := ⟨b.find?⟩

end Bindings

end SheetFormula
