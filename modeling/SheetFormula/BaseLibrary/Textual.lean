import SheetFormula.BaseLibrary.Basic
import SheetFormula.Unicode.Blank
import SheetFormula.Unicode.Case
import SheetFormula.Unicode.CodePoint

/-!
# Base functions on texts

Positions and counts of these functions are in bytes, positions counted from one. A cut that would
fall into a character is moved back to where the character begins, so every result is made of
whole characters.
-/

namespace SheetFormula

namespace BaseLibrary

/-! ### Building texts -/

/-- The character with a code point, given as a number without regard to its fraction; the
replacement character if there is none. -/
def charOfNumber (x : Binary64) : Char :=
  ((natural? x.truncate).bind Unicode.charOfCode?).getD '\ufffd'

/-- `CHAR(code; ...)` is the text of the characters with the given code points. -/
def char (c : Call) : Computation Value := do
  argument (c.expectRest 0 .number)
  let codes := c.values.filterMap fun v => v.asNumber.toOption
  pure (.text (String.ofList (codes.map charOfNumber)))

/-- `JOIN(separator; s1; s2; ...)` is the texts with the separator between them. The length of the
result is not bounded: that memory is exhausted by it is left out. -/
def join (c : Call) : Computation Value := do
  let separator ← argument (c.text 0)
  argument (c.expectRest 1 .text)
  let parts := (← argumentsFrom c 1).filterMap fun v => v.asText.toOption
  pure (.text (separator.intercalate parts))

/-- The greatest number of bytes that `REPT` builds. -/
def repeatLimit : Nat := 16 * 1024 * 1024

/-- `REPT(text; count)` is the text written `count` times over. -/
def rept (c : Call) : Computation Value := do
  let s ← argument (c.text 0)
  let _ ← argument (c.number 1)
  let n ← count c 1 0
  if s.utf8ByteSize * n ≤ repeatLimit then
    pure (.text (Text.repeated s n))
  else
    refuse ("REPT result exceeds " ++ toString repeatLimit ++ " bytes")

/-- `LOWER(text)` is the text in lower case. -/
def lower (c : Call) : Computation Value := do
  let s ← argument (c.text 0)
  pure (.text (String.ofList (Unicode.lower s.toList)))

/-- `UPPER(text)` is the text in upper case. -/
def upper (c : Call) : Computation Value := do
  let s ← argument (c.text 0)
  pure (.text (String.ofList (Unicode.upper s.toList)))

/-- A text without the white space at its ends. -/
def trimmed (cs : List Char) : List Char :=
  ((cs.dropWhile Unicode.isBlank).reverse.dropWhile Unicode.isBlank).reverse

/-- `TRIM(text)` is the text without the white space at its ends. -/
def trim (c : Call) : Computation Value := do
  let s ← argument (c.text 0)
  pure (.text (String.ofList (trimmed s.toList)))

/-! ### Measuring and cutting texts -/

/-- `LEN(text)` is the number of bytes of the text. -/
def len (c : Call) : Computation Value := do
  let s ← argument (c.text 0)
  pure (.number (Binary64.ofNat s.utf8ByteSize))

/-- `LEFT(text; [count = 1])` is the first `count` bytes of the text. -/
def left (c : Call) : Computation Value := do
  let cs := (← argument (c.text 0)).toList
  let n ← count c 1 1
  piece cs 0 (Text.floorBoundary cs n)

/-- `RIGHT(text; [count = 1])` is the last `count` bytes of the text. -/
def right (c : Call) : Computation Value := do
  let cs := (← argument (c.text 0)).toList
  let n ← count c 1 1
  let length := Text.byteLength cs
  piece cs (Text.floorBoundary cs (length - n)) length

/-- `MID(text; start; [length = 1])` is `length` bytes of the text from position `start` on,
counted from one. It is empty for a start outside the text, and ends where the text ends. -/
def mid (c : Call) : Computation Value := do
  let cs := (← argument (c.text 0)).toList
  let from0 := offset (← argument (c.number 1)).truncate
  let length ← count c 2 1
  match natural? from0 with
  | none => pure (.text "")
  | some start =>
    if Text.byteLength cs ≤ start then
      pure (.text "")
    else
      piece cs (Text.floorBoundary cs start) (Text.floorBoundary cs (advanced start length))

/-- The position, counted from one, of the first occurrence of a text in another at or after a
position counted from zero; absent when there is none or the position is outside the text. -/
def searchFrom (needle cs : List Char) (from0 : Int) : Computation (Option Nat) :=
  match natural? from0 with
  | none => pure none
  | some start =>
    if Text.byteLength cs ≤ start then
      pure none
    else do
      let floor := Text.floorBoundary cs start
      let rest ← present (Text.slice? cs floor (Text.byteLength cs))
      match Text.find? needle rest with
      | none => pure none
      | some found => some <$> inWord (floor + found + 1)

/-- `SEARCH(needle; haystack; [start = 1])` is the position of the first occurrence of the needle
at or after `start`, or minus one. -/
def search (c : Call) : Computation Value := do
  let needle := (← argument (c.text 0)).toList
  let cs := (← argument (c.text 1)).toList
  let from0 := offset (← argument (c.numberOr 2 1)).truncate
  match ← searchFrom needle cs from0 with
  | some position => pure (.number (Binary64.ofNat position))
  | none => pure (.number (Binary64.one true))

end BaseLibrary

end SheetFormula
