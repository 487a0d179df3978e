import SheetFormula.SyntaxError
import SheetFormula.Text.Bytes
import SheetFormula.Unicode.Blank
import SheetFormula.Unicode.Letter

/-!
# Reading tokens

The text of a formula is cut into **items** with white space between them. An item is a token or
a place where no token can be read, and it covers a range of bytes. Reading goes on after a place
of the second sort: behind the one character that begins no token, behind the whole of a literal
that spells nothing, and at the end of the text if a quote is not closed.

`lexeme` says what the item at the front of a text is and how many characters it covers; `items`
lays the lexemes side by side. Whatever has been read before has no influence on an item.
-/

namespace SheetFormula

/-! ### One item -/

/-- What was read as one item: a token, or why there is none. -/
inductive Reading where
  | token (t : Token)
  | fault (f : LexicalFault)
  deriving DecidableEq

/-- Whether the character may stand in a name after its first letter. -/
def isNameChar (c : Char) : Bool := Unicode.isLetter c || Unicode.isDecimalDigit c || c == '_'

/-- The number of characters of the fraction at the front of a text: a point and the digits
after it. -/
def fractionLength : List Char → Nat
  | '.' :: cs => (cs.takeWhile Text.isDigit).length + 1
  | _ => 0

/-- What the digits of a number, which may hold one point, are read as: the nearest number unless
that is infinite. -/
def readNumber (literal : List Char) : Reading :=
  let whole := literal.takeWhile Text.isDigit
  let fraction := (literal.dropWhile Text.isDigit).drop 1
  let x := Binary64.ofDigits whole fraction
  if x.isFinite then .token (.number x) else .fault (.invalidNumber (String.ofList literal))

/-- The item that begins with a digit, and how many characters it covers after it. -/
def numberLexeme (first : Char) (cs : List Char) : Reading × Nat :=
  let whole := (cs.takeWhile Text.isDigit).length
  let length := whole + fractionLength (cs.drop whole)
  (readNumber (first :: cs.take length), length)

/-- The item that begins with a quote, and how many characters it covers after it. -/
def textLexeme (cs : List Char) : Reading × Nat :=
  match Text.bodyLength? cs with
  | none => (.fault .unterminatedText, cs.length)
  | some length =>
    match Text.unescape? (cs.take length) with
    | some s => (.token (.text (String.ofList s)), length + 1)
    | none => (.fault .invalidEscape, length + 1)

/-- The item that begins with a letter, and how many characters it covers after it. -/
def nameLexeme (first : Char) (cs : List Char) : Reading × Nat :=
  let rest := cs.takeWhile isNameChar
  (.token (.name (String.ofList (first :: rest))), rest.length)

/-- The symbol that begins with a character, the longer one if two do, and how many characters it
covers after it. -/
def symbolAt? : Char → List Char → Option (Symbol × Nat)
  | '+', _ => some (.plus, 0)
  | '-', _ => some (.minus, 0)
  | '*', _ => some (.star, 0)
  | '/', _ => some (.slash, 0)
  | '^', _ => some (.caret, 0)
  | '%', _ => some (.percent, 0)
  | '&', _ => some (.ampersand, 0)
  | '=', _ => some (.equal, 0)
  | '>', '=' :: _ => some (.greaterEqual, 1)
  | '>', _ => some (.greater, 0)
  | '<', '>' :: _ => some (.notEqual, 1)
  | '<', '=' :: _ => some (.lessEqual, 1)
  | '<', _ => some (.less, 0)
  | ';', _ => some (.semicolon, 0)
  | '(', _ => some (.leftParen, 0)
  | ')', _ => some (.rightParen, 0)
  | _, _ => none

/-- The item at the front of a text that begins with a character other than white space, and how
many characters it covers after that one. -/
def lexeme (first : Char) (cs : List Char) : Reading × Nat :=
  if Text.isDigit first then numberLexeme first cs
  else if first = '"' then textLexeme cs
  else if Unicode.isLetter first then nameLexeme first cs
  else
    match symbolAt? first cs with
    | some (s, length) => (.token (.symbol s), length)
    | none => (.fault (.unknownCharacter first), 0)

/-! ### All items -/

/-- An **item** of a text: what was read, and the bytes that it covers, from `start` up to but
not including `stop`. -/
structure Item where
  reading : Reading
  start : Nat
  stop : Nat
  deriving DecidableEq

namespace Item

/-- The items of a text that begins at byte `position`. The first `skip` characters belong to an
item that has been read. -/
def listFrom : (skip : Nat) → (position : Nat) → List Char → List Item
  | _, _, [] => []
  | skip + 1, position, c :: cs => listFrom skip (position + c.utf8Size) cs
  | 0, position, c :: cs =>
    if Unicode.isBlank c then listFrom 0 (position + c.utf8Size) cs
    else
      let (reading, length) := lexeme c cs
      ⟨reading, position, position + Text.byteLength (c :: cs.take length)⟩ ::
        listFrom length (position + c.utf8Size) cs

/-- The items of a text. -/
def list (source : String) : List Item := listFrom 0 0 source.toList

end Item

end SheetFormula
