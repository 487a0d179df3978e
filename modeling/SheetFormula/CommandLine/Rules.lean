import SheetFormula.CommandLine.Program

/-!
# The rules of arguments

How well-formed arguments are read, as the package that reads them documents it. Options may stand
before and after formulas, up to an argument of two dashes, after which there are formulas only.

* `-D NAME=VALUE`, `--var NAME=VALUE` bind a name, any number of times.
* `--max-depth N` sets the ceiling.
* `-c`, `--canonical` asks for canonical texts; `-v`, `--verbose` asks for reports to the side.

A value may be joined to its option, after an equals sign or, for a single letter, directly;
letters may be joined too. A single option must not be repeated. Of arguments that are not well
formed, and of requests for help or for the version, the rules say nothing.
-/

namespace SheetFormula

namespace CommandLine

/-! ### What options come to -/

/-- The natural number below `2⁶⁴` that a text spells, a plus sign before it allowed. -/
def word? (text : List Char) : Option Nat :=
  let digits := match text with
    | '+' :: cs => cs
    | cs => cs
  let n := Binary64.digitsValue digits
  if !digits.isEmpty && digits.all Text.isDigit && n < Word.limit then some n else none

namespace Options

/-- The options with a flag set that was not. -/
def set (o : Options) : Flag → Option Options
  | .canonical => if o.canonical then none else some { o with canonical := true }
  | .verbose => if o.verbose then none else some { o with verbose := true }

/-- The options with one that takes a value. -/
def put (bind : BindingReader) (o : Options) (value : List Char) : ValueOption → Option Options
  | .binding => do
    let v ← (bind (String.ofList value)).toOption
    some { o with assignments := o.assignments ++ [v] }
  | .maxDepth => do
    let n ← word? value
    if o.ceiling.isSome then none else some { o with ceiling := some n }

/-- The options with one more formula. -/
def add (o : Options) (formula : String) : Options :=
  { o with formulas := o.formulas ++ [formula] }

/-- The options with more formulas. -/
def addAll (o : Options) (formulas : List String) : Options :=
  { o with formulas := o.formulas ++ formulas }

end Options

/-- What one argument that begins with a dash leaves to be done. -/
inductive Progress where
  /-- The argument has been used up. -/
  | done (o : Options)
  /-- The next argument is the value of an option. -/
  | awaiting (o : Options) (option : ValueOption)

/-! ### The rules -/

/-- Whether an argument is an option by its form: a dash and something after it. -/
def isOption : List Char → Bool
  | '-' :: _ :: _ => true
  | _ => false

variable (bind : BindingReader)

/-- What joined letters are read as. -/
inductive ReadsLetters : Options → List Char → Progress → Prop
  | nil {o : Options} : ReadsLetters o [] (.done o)
  | flag {o o₁ : Options} {f : Flag} {cs : List Char} {p : Progress} (set : o.set f = some o₁)
      (rest : ReadsLetters o₁ cs p) : ReadsLetters o (f.letter :: cs) p
  | valued {o : Options} {option : ValueOption} {c : Char} (letter : option.letter? = some c) :
      ReadsLetters o [c] (.awaiting o option)
  /-- A value joined to its letter. -/
  | joined {o o₁ : Options} {option : ValueOption} {c first : Char} {value : List Char}
      (letter : option.letter? = some c) (plain : first ≠ '=')
      (put : o.put bind (first :: value) option = some o₁) :
      ReadsLetters o (c :: first :: value) (.done o₁)
  /-- A value joined to its letter by an equals sign. -/
  | equals {o o₁ : Options} {option : ValueOption} {c : Char} {value : List Char}
      (letter : option.letter? = some c) (put : o.put bind value option = some o₁) :
      ReadsLetters o (c :: '=' :: value) (.done o₁)

/-- What an argument that is an option by its form is read as. -/
inductive ReadsOption (o : Options) : List Char → Progress → Prop
  | flag {o₁ : Options} {f : Flag} (set : o.set f = some o₁) :
      ReadsOption o ('-' :: '-' :: f.name.toList) (.done o₁)
  | valued (option : ValueOption) :
      ReadsOption o ('-' :: '-' :: option.name.toList) (.awaiting o option)
  /-- A value joined to the name of its option. -/
  | equals {o₁ : Options} {option : ValueOption} {value : List Char}
      (put : o.put bind value option = some o₁) :
      ReadsOption o ('-' :: '-' :: (option.name.toList ++ '=' :: value)) (.done o₁)
  | letters {cs : List Char} {p : Progress} (ne : cs ≠ []) (letters : ReadsLetters bind o cs p) :
      ReadsOption o ('-' :: cs) p

/-- What arguments are **read** as, after those that have been read into options. -/
inductive Reads : Options → List String → Options → Prop
  | nil {o : Options} : Reads o [] o
  /-- After two dashes there are formulas only. -/
  | dashes {o : Options} {args : List String} : Reads o ("--" :: args) (o.addAll args)
  /-- What is no option is a formula. -/
  | formula {o o' : Options} {arg : String} {args : List String}
      (plain : isOption arg.toList = false) (rest : Reads (o.add arg) args o') :
      Reads o (arg :: args) o'
  /-- An option that is all of its argument. -/
  | whole {o o₁ o' : Options} {arg : String} {args : List String}
      (done : ReadsOption bind o arg.toList (.done o₁)) (rest : Reads o₁ args o') :
      Reads o (arg :: args) o'
  /-- An option with its value in the next argument. -/
  | valued {o o₁ o₂ o' : Options} {option : ValueOption} {arg value : String} {args : List String}
      (awaiting : ReadsOption bind o arg.toList (.awaiting o₁ option))
      (plain : isOption value.toList = false) (put : o₁.put bind value.toList option = some o₂)
      (rest : Reads o₂ args o') : Reads o (arg :: value :: args) o'

/-- A way to read arguments **keeps to the rules** if it reads arguments as the rules say when these
cover them and there is a formula. -/
def ArgumentReader.KeepsRules (read : ArgumentReader) : Prop :=
  ∀ {bind : BindingReader} {args : List String} {o : Options},
    Reads bind {} args o → o.formulas ≠ [] → read bind args = .ok o

end CommandLine

end SheetFormula
