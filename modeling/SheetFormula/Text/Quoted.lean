import SheetFormula.Text.Digit
import SheetFormula.Unicode.CodePoint
import SheetFormula.Unicode.Shapeless

/-!
# Quoted text

A text between double quotes, with some characters spelled by an **escape** that begins with a
backslash. Writing and reading differ in what they know: a writer escapes the quote, the
backslash, four control characters by a letter or digit each, and a class of further characters,
which is its parameter, by their code point. The reader knows more spellings:

* one character after the backslash for a quote, an apostrophe, a backslash and eight controls;
* `\x`, `\u` and `\U` before exactly two, four and eight hexadecimal digits;
* `\u` before one to six hexadecimal digits in braces.

A code point must be that of a character. The body of a quoted text ends at the first quote that
no backslash stands before, where a backslash always belongs to the character after it.
-/

namespace SheetFormula

namespace Text

/-! ### Writing -/

/-- A character spelled by its code point. -/
def codeEscape (c : Char) : List Char :=
  '\\' :: 'u' :: '\x7b' :: (Nat.toDigits 16 c.toNat ++ ['\x7d'])

/-- How a writer spells a character, when it writes those of the class `hidden` by their code
point. -/
def spelled (hidden : Char → Bool) (c : Char) : List Char :=
  match c with
  | '"' => ['\\', '"']
  | '\\' => ['\\', '\\']
  | '\n' => ['\\', 'n']
  | '\r' => ['\\', 'r']
  | '\t' => ['\\', 't']
  | '\x00' => ['\\', '0']
  | c => if hidden c then codeEscape c else [c]

/-- The text between quotes, with the class `hidden` written by code point. -/
def quotedHiding (hidden : Char → Bool) (cs : List Char) : List Char :=
  '"' :: (cs.flatMap (spelled hidden) ++ ['"'])

/-- The quoted text as a formula spells it: control characters are escaped. -/
def quoted (cs : List Char) : List Char := quotedHiding Unicode.isControl cs

/-- The quoted text as a message shows it: characters without a shape of their own are escaped. -/
def quotedForMessage (cs : List Char) : List Char := quotedHiding Unicode.isShapeless cs

/-! ### Reading -/

/-- The number of characters before the quote that ends a body, absent when no quote does. -/
def bodyLength? : List Char → Option Nat
  | [] => none
  | '"' :: _ => some 0
  | '\\' :: _ :: cs => (bodyLength? cs).map (· + 2)
  | _ :: cs => (bodyLength? cs).map (· + 1)

/-- The number that hexadecimal digits spell after those that spell `code`. -/
def hexFrom (code : Nat) : List Char → Option Nat
  | [] => some code
  | c :: cs => do
    let digit ← hexValue? c
    hexFrom (code * 16 + digit) cs

/-- The character whose code point the digits spell. -/
def charOfHex? (digits : List Char) : Option Char := (hexFrom 0 digits).bind Unicode.charOfCode?

/-- Reads exactly `count` digits of a code point; the result counts the escape's characters after
its backslash, of which one comes before the digits. -/
def fixedEscape? (count : Nat) (cs : List Char) : Option (Char × Nat) :=
  if count ≤ cs.length then (charOfHex? (cs.take count)).map (·, count + 1) else none

/-- Reads the digits of a code point up to a closing brace; the result counts the escape's
characters after its backslash, with both braces and the letter before them. -/
def bracedEscape? (cs : List Char) : Option (Char × Nat) :=
  let digits := cs.takeWhile (· != '\x7d')
  if digits.length < cs.length && 1 ≤ digits.length && digits.length ≤ 6 then
    (charOfHex? digits).map (·, digits.length + 3)
  else none

/-- The characters that a backslash and one more character spell. -/
def shortEscape? : Char → Option Char
  | '"' => some '"'
  | '\\' => some '\\'
  | '\x27' => some '\x27'
  | '0' => some '\x00'
  | 'a' => some '\x07'
  | 'b' => some '\x08'
  | 'f' => some '\x0c'
  | 'n' => some '\n'
  | 'r' => some '\r'
  | 't' => some '\t'
  | 'v' => some '\x0b'
  | _ => none

/-- The character that the escape at the front of what follows a backslash spells, with the
number of characters the escape takes there. -/
def escape? : List Char → Option (Char × Nat)
  | [] => none
  | 'x' :: cs => fixedEscape? 2 cs
  | 'U' :: cs => fixedEscape? 8 cs
  | 'u' :: '\x7b' :: cs => bracedEscape? cs
  | 'u' :: cs => fixedEscape? 4 cs
  | c :: _ => (shortEscape? c).map (·, 1)

/-- The text that a body spells after its first `skip` characters, which belong to an escape that
has been read. -/
def unescapeFrom : (skip : Nat) → List Char → Option (List Char)
  | _, [] => some []
  | skip + 1, _ :: cs => unescapeFrom skip cs
  | 0, c :: cs =>
    if c = '\\' then
      match escape? cs with
      | some (spelledChar, taken) => (unescapeFrom taken cs).map (spelledChar :: ·)
      | none => none
    else (unescapeFrom 0 cs).map (c :: ·)

/-- The text that the body of a quoted text spells, absent when an escape in it spells nothing. -/
def unescape? (body : List Char) : Option (List Char) := unescapeFrom 0 body

end Text

end SheetFormula
