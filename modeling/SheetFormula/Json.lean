import SheetFormula.Environment

/-!
# JSON data as bindings

The data of a JSON document, and what formulas can take from it: texts, numbers and booleans
become values, while null, arrays and objects have no counterpart and are left out.
-/

namespace SheetFormula

/-- The data of a JSON document. A number is one by the time it is here. -/
inductive JsonData where
  | null
  | boolean (b : Bool)
  | number (x : Binary64)
  | text (s : String)
  | array (items : List JsonData)
  | object (fields : List (String × JsonData))

namespace JsonData

/-- The value that the data are, if they are one. -/
def value? : JsonData → Option Value
  | boolean b => some (.boolean b)
  | number x => some (.number x)
  | text s => some (.text s)
  | null | array _ | object _ => none

end JsonData

namespace Bindings

variable {σ : Type}

/-- The bindings of the fields of an object that are values. -/
def ofFields (fields : List (String × JsonData)) : Bindings σ :=
  .ofList (fields.filterMap fun (name, data) => data.value?.map fun v => (name, .value v))

end Bindings

end SheetFormula
