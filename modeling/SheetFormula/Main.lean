import SheetFormula.CommandLine

/-!
# The program

Runs the command line on its arguments, with a source of numbers that is seeded afresh.
-/

open SheetFormula

/-- What is said about arguments that are not well formed. -/
def usage : String :=
  "usage: [-D NAME=VALUE] [--max-depth N] [--canonical] [--verbose] FORMULA..."

/-- Prints the outcome of the command line and exits with its code. -/
def main (args : List String) : IO UInt32 := do
  let seed ← IO.rand 0 (Word.limit - 1)
  let outcome := CommandLine.run args ⟨seed⟩
  IO.print outcome.output
  if outcome.code = 2 then
    IO.eprintln usage
  return outcome.code.toUInt32
