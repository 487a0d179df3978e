import SheetFormula.Json.Number
import SheetFormula.Unicode.CodePoint
import SheetFormula.Value

/-!
# Scalars in JSON text

The value that a whole text spells in JSON, white space around it allowed: a number, a boolean or
a text. A text is in double quotes and holds no control characters; escapes are one letter after a
backslash, or `u` and four hexadecimal digits for a unit of UTF-16, of which a high and a low
surrogate together spell one character.

This reader stands in for the one that the host has, of which nothing is assumed: the program is
given any reader of JSON.
-/

namespace SheetFormula

namespace Json

/-! ### Texts -/

/-- The unit of UTF-16 that four hexadecimal digits spell. -/
def unit? : List Char → Option Nat
  | a :: b :: c :: d :: _ => do
    let a ← Text.hexValue? a
    let b ← Text.hexValue? b
    let c ← Text.hexValue? c
    let d ← Text.hexValue? d
    some (((a * 16 + b) * 16 + c) * 16 + d)
  | _ => none

/-- The character that the units at the front of a text spell after a backslash and `u`, and the
number of characters that it takes. A high surrogate must be followed by the escape of a low
one. -/
def unicodeEscape? (cs : List Char) : Option (Char × Nat) := do
  let high ← unit? cs
  if 0xD800 ≤ high && high < 0xDC00 then
    match cs.drop 4 with
    | '\\' :: 'u' :: rest =>
      let low ← unit? rest
      if 0xDC00 ≤ low && low < 0xE000 then
        let c ← Unicode.charOfCode? (0x10000 + (high - 0xD800) * 0x400 + (low - 0xDC00))
        some (c, 10)
      else none
    | _ => none
  else
    let c ← Unicode.charOfCode? high
    some (c, 4)

/-- The character that the escape at the front of a text spells after its backslash, and the
number of characters that it takes. -/
def escape? : List Char → Option (Char × Nat)
  | '"' :: _ => some ('"', 1)
  | '\\' :: _ => some ('\\', 1)
  | '/' :: _ => some ('/', 1)
  | 'b' :: _ => some ('\x08', 1)
  | 'f' :: _ => some ('\x0c', 1)
  | 'n' :: _ => some ('\n', 1)
  | 'r' :: _ => some ('\r', 1)
  | 't' :: _ => some ('\t', 1)
  | 'u' :: cs => (unicodeEscape? cs).map fun (c, taken) => (c, taken + 1)
  | _ => none

/-- The text up to the closing quote, and what follows the quote. The first `skip` characters
belong to an escape that has been read. -/
def textFrom : (skip : Nat) → List Char → Option (List Char × List Char)
  | _, [] => none
  | skip + 1, _ :: cs => textFrom skip cs
  | 0, c :: cs =>
    if c = '"' then some ([], cs)
    else if c = '\\' then
      match escape? cs with
      | some (spelled, taken) => (textFrom taken cs).map fun (s, rest) => (spelled :: s, rest)
      | none => none
    else if c.toNat < 0x20 then none
    else (textFrom 0 cs).map fun (s, rest) => (c :: s, rest)

/-! ### Scalars -/

/-- Whether the character is white space in JSON. -/
def isBlank (c : Char) : Bool := c == ' ' || c == '\n' || c == '\t' || c == '\r'

/-- The scalar at the front of a text, and what follows it. -/
def scalarFrom : List Char → Option (Value × List Char)
  | '"' :: cs => (textFrom 0 cs).map fun (s, rest) => (.text (String.ofList s), rest)
  | 't' :: 'r' :: 'u' :: 'e' :: rest => some (.boolean true, rest)
  | 'f' :: 'a' :: 'l' :: 's' :: 'e' :: rest => some (.boolean false, rest)
  | cs => do
    let (n, rest) ← numeral? cs
    let x ← n.number?
    some (.number x, rest)

/-- The value that a text spells. -/
def scalar? (text : String) : Option Value := do
  let (v, rest) ← scalarFrom (text.toList.dropWhile isBlank)
  if rest.all isBlank then some v else none

end Json

end SheetFormula
