import SheetFormula.CommandLine.Rules

/-!
# A reader of arguments

A way to read arguments that keeps to the rules, with which the program can be run. Letters and
options are read from left to right, and what is wrong first, or asks for a page first, ends the
reading.
-/

namespace SheetFormula

namespace CommandLine

namespace Reader

/-- The page of the version. -/
def versionPage : String := "celform 0.1.0\n"

/-- The page of help. -/
def helpPage : String :=
  "A small embeddable spreadsheet-style formula language: " ++
  "lexer, parser and tree-walking evaluator.\n\n" ++
  "Usage: celform [OPTIONS] <FORMULAS>...\n\n" ++
  "Arguments:\n  <FORMULAS>...  The formulas to evaluate\n\n" ++
  "Options:\n" ++
  "  -D, --var <NAME=VALUE>       Binds a name for every formula, e.g. `--var total=12` or " ++
  "`--var name=Ada`. Values that parse as JSON numbers, booleans or strings take that kind; " ++
  "anything else is a string\n" ++
  "      --max-depth <MAX_DEPTH>  Maximum nesting depth accepted by the parser [default: 1024]\n" ++
  "  -c, --canonical              Prints the canonical encoding of each formula instead of " ++
  "evaluating it\n" ++
  "  -v, --verbose                Logs parser and evaluator events to stderr\n" ++
  "  -h, --help                   Print help\n" ++
  "  -V, --version                Print version\n"

variable (bind : BindingReader)

/-- What an option leaves, if it is accepted. -/
def accepted {α : Type} : Option α → Except Exit α
  | some a => .ok a
  | none => .error .rejected

/-- Reads the value of an option if it is joined; otherwise it is awaited. -/
def readValued (o : Options) (option : ValueOption) : Option (List Char) → Except Exit Progress
  | none => .ok (.awaiting o option)
  | some value => (accepted (o.put bind value option)).map .done

/-- The value that is joined to a letter by what follows it. -/
def joinedValue? : List Char → Option (List Char)
  | [] => none
  | '=' :: value => some value
  | value => some value

/-- Reads joined single letters. -/
def readLetters (o : Options) : List Char → Except Exit Progress
  | [] => .ok (.done o)
  | 'c' :: cs => do readLetters (← accepted (o.set .canonical)) cs
  | 'v' :: cs => do readLetters (← accepted (o.set .verbose)) cs
  | 'D' :: cs => readValued bind o .binding (joinedValue? cs)
  | 'h' :: _ => .error (.page helpPage)
  | 'V' :: _ => .error (.page versionPage)
  | _ => .error .rejected

/-- Reads a long option without its dashes: a name, and a value if an equals sign follows it. -/
def readLong (o : Options) (cs : List Char) : Except Exit Progress :=
  let name := String.ofList (cs.takeWhile (· != '='))
  let value := (cs.dropWhile (· != '=')).tail?
  if name = "var" then readValued bind o .binding value
  else if name = "max-depth" then readValued bind o .maxDepth value
  else if value.isSome then .error .rejected
  else if name = "canonical" then (accepted (o.set .canonical)).map .done
  else if name = "verbose" then (accepted (o.set .verbose)).map .done
  else if name = "help" then .error (.page helpPage)
  else if name = "version" then .error (.page versionPage)
  else .error .rejected

/-- Reads an argument that is an option by its form. -/
def readOption (o : Options) : List Char → Except Exit Progress
  | '-' :: '-' :: cs => readLong bind o cs
  | _ :: cs => readLetters bind o cs
  | [] => .error .rejected

/-- Reads the arguments after those that have been read into the options. -/
def readAll (o : Options) : List String → Except Exit Options
  | [] => .ok o
  | arg :: args =>
    if arg = "--" then .ok (o.addAll args)
    else if isOption arg.toList then
      match readOption bind o arg.toList with
      | .error exit => .error exit
      | .ok (.done o) => readAll o args
      | .ok (.awaiting o option) =>
        match args with
        | [] => .error .rejected
        | value :: args =>
          if isOption value.toList then .error .rejected
          else
            match o.put bind value.toList option with
            | none => .error .rejected
            | some o => readAll o args
    else readAll (o.add arg) args

/-- Reads arguments, among which there must be a formula. -/
def read : ArgumentReader := fun bind args =>
  match readAll bind {} args with
  | .ok o => if o.formulas.isEmpty then .error .rejected else .ok o
  | .error exit => .error exit

end Reader

end CommandLine

end SheetFormula
