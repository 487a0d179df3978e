import SheetFormula.BaseLibrary
import SheetFormula.Expression.Evaluate
import SheetFormula.Json

/-!
# The program

The program takes formulas as arguments and prints a line for each: its value after the word for
its kind, its canonical text if that is asked for, or its error. Options bind names for all
formulas, set the ceiling of the nesting, and choose the canonical texts.

Three things are done for the program by other packages, whose code is not this project's: its
arguments are read, values are read as JSON, and numbers are drawn. They are the fields of
`CommandLine.Packages`, and the program is given them. What is reported to the side is left out.
-/

namespace SheetFormula

namespace CommandLine

/-! ### Options -/

/-- What the arguments ask for. -/
structure Options where
  assignments : List (String × Value) := []
  ceiling : Option Nat := none
  canonical : Bool := false
  verbose : Bool := false
  formulas : List String := []

/-- The ceiling of the nesting that options set. -/
def Options.limit (o : Options) : Nat := o.ceiling.getD defaultCeiling

/-- The options that take a value. -/
inductive ValueOption where
  | binding | maxDepth

namespace ValueOption

/-- The name of an option, which follows two dashes. -/
def name : ValueOption → String
  | binding => "var"
  | maxDepth => "max-depth"

/-- The letter of an option, which follows one dash, if it has one. -/
def letter? : ValueOption → Option Char
  | binding => some 'D'
  | maxDepth => none

end ValueOption

/-- The options that take none. -/
inductive Flag where
  | canonical | verbose

namespace Flag

/-- The name of a flag, which follows two dashes. -/
def name : Flag → String
  | canonical => "canonical"
  | verbose => "verbose"

/-- The letter of a flag, which follows one dash. -/
def letter : Flag → Char
  | canonical => 'c'
  | verbose => 'v'

end Flag

/-- What the value of an option that binds a name is read as: a binding, or else a message. -/
abbrev BindingReader := String → Except String (String × Value)

/-- Reads `NAME=VALUE`, split at the first equals sign. The value is that of a JSON document if the
text is one and has a value, and the text itself otherwise. -/
def readBinding (json : String → Option JsonData) : BindingReader := fun arg =>
  match arg.toList.dropWhile (· != '=') with
  | [] => .error ("expected NAME=VALUE, found '" ++ arg ++ "'")
  | _ :: raw =>
    let raw := String.ofList raw
    let value := ((json raw).bind JsonData.value?).getD (.text raw)
    .ok (String.ofList (arg.toList.takeWhile (· != '=')), value)

/-! ### Packages -/

/-- The ways in which reading the arguments may end the program. -/
inductive Exit where
  /-- A page is asked for, such as that of help or of the version. -/
  | page (text : String)
  /-- The arguments are not well formed. -/
  | rejected

/-- A way to read arguments, given what bindings are read as. -/
abbrev ArgumentReader := BindingReader → List String → Except Exit Options

/-- What other **packages** do for the program, over the states of the host. -/
structure Packages (σ : Type) where
  /-- Reads the arguments. -/
  read : ArgumentReader
  /-- The JSON document that a text is. -/
  json : String → Option JsonData
  /-- Draws a number. -/
  draw : σ → Nat × σ

/-! ### Output -/

/-- The line for a value. -/
def describe : Value → String
  | .text s => "string: " ++ s
  | .number x => "number: " ++ x.format
  | .boolean b => "bool: " ++ if b then "true" else "false"

variable {σ : Type}

/-- The environment of the formulas: the bindings of the options before the base library. -/
def environment (draw : σ → Nat × σ) (o : Options) : Environment σ :=
  .layers
    [(Bindings.ofList (o.assignments.map fun (name, v) => (name, .value v))).toEnvironment,
      BaseLibrary.environment draw]

/-- The line for a formula. -/
def line (draw : σ → Nat × σ) (o : Options) (formula : String) : OneShot σ String := do
  if o.canonical then
    match Expression.parse formula o.limit with
    | .ok expression => pure expression.encode
    | .error e => throw (.parsing e)
  else
    let v ← OneShot.value (environment draw o) o.limit formula
    pure (describe v)

/-- What a run of the program leaves behind: its output and its exit code. -/
structure Outcome where
  output : String
  code : Nat
  deriving DecidableEq

/-- The lines for formulas, and whether one failed. -/
def lines (draw : σ → Nat × σ) (o : Options) : List String → σ → List String × Bool
  | [], _ => ([], false)
  | formula :: formulas, s =>
    match line draw o formula s with
    | .ok text s =>
      let (texts, failed) := lines draw o formulas s
      (text :: texts, failed)
    | .error e s =>
      let (texts, _) := lines draw o formulas s
      (("error: " ++ e.message) :: texts, true)

/-- The outcome of options: one line for each formula, and exit code one if a formula failed. -/
def report (draw : σ → Nat × σ) (o : Options) (s : σ) : Outcome :=
  let (texts, failed) := lines draw o o.formulas s
  ⟨String.join (texts.map (· ++ "\n")), if failed then 1 else 0⟩

/-- The outcome of a **run** of the program. A page is printed with exit code zero; arguments that
are not well formed give no output and exit code two. -/
def Packages.run (packages : Packages σ) (args : List String) (s : σ) : Outcome :=
  match packages.read (readBinding packages.json) args with
  | .ok o => report packages.draw o s
  | .error (.page text) => ⟨text, 0⟩
  | .error .rejected => ⟨"", 2⟩

end CommandLine

end SheetFormula
