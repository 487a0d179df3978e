import SheetFormula.CommandLine.Reader
import SheetFormula.Json.Scalar
import SheetFormula.Random

/-!
# The command line

The program with stand-ins for the packages that it uses, by which it can be run: a reader of
arguments, a reader of scalars in JSON, and a generator of numbers.
-/

namespace SheetFormula

/-- A value as the data of a JSON document. -/
def JsonData.ofValue : Value → JsonData
  | .text s => .text s
  | .number x => .number x
  | .boolean b => .boolean b

namespace CommandLine

/-- **Stand-ins** for the packages. Of the JSON documents only scalars are read, as the program
makes nothing of others. -/
def standIns : Packages Generator where
  read := Reader.read
  json text := (Json.scalar? text).map JsonData.ofValue
  draw := Generator.draw

/-- The outcome of a run of the program with the stand-ins. -/
def run (args : List String) (g : Generator) : Outcome := standIns.run args g

end CommandLine

end SheetFormula
