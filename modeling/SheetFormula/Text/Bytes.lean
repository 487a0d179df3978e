/-!
# Texts measured in bytes

Positions in a text are counted in the bytes of its UTF-8 form, while a cut may fall between
characters only. Such a place is a **boundary**. This module holds the byte length of a text, the
greatest boundary not above a position (`Text.floorBoundary`), the piece of a text between two
boundaries (`Text.slice?`), which is absent when the given places are no boundaries or stand the
wrong way round, the place of the first occurrence of one text in another, and the order of texts
by their bytes.
-/

namespace SheetFormula

namespace Text

/-! ### Length -/

/-- The bytes of a list of characters, `passed` bytes having been counted already. -/
def byteLengthFrom (passed : Nat) : List Char → Nat
  | [] => passed
  | c :: cs => byteLengthFrom (passed + c.utf8Size) cs

/-- The bytes of the UTF-8 form of a list of characters. -/
def byteLength (cs : List Char) : Nat := byteLengthFrom 0 cs

theorem byteLengthFrom_eq (passed : Nat) (cs : List Char) :
    byteLengthFrom passed cs = passed + byteLength cs := by
  induction cs generalizing passed with
  | nil => rfl
  | cons c cs ih =>
    rw [byteLength, byteLengthFrom, byteLengthFrom, ih, ih (0 + c.utf8Size)]
    omega

@[simp]
theorem byteLength_nil : byteLength [] = 0 := rfl

@[simp]
theorem byteLength_cons (c : Char) (cs : List Char) :
    byteLength (c :: cs) = c.utf8Size + byteLength cs := by
  rw [byteLength, byteLengthFrom, byteLengthFrom_eq]
  omega

@[simp]
theorem byteLength_append (as bs : List Char) :
    byteLength (as ++ bs) = byteLength as + byteLength bs := by
  induction as with
  | nil => simp
  | cons c as ih =>
    rw [List.cons_append, byteLength_cons, byteLength_cons, ih]
    omega

/-- The byte length of a string is that of its characters. -/
theorem byteLength_toList (s : String) : byteLength s.toList = s.utf8ByteSize := by
  have key : ∀ cs : List Char, byteLength cs = (String.ofList cs).utf8ByteSize := by
    intro cs
    induction cs with
    | nil => simp
    | cons c cs ih =>
      have split : String.ofList (c :: cs) = String.singleton c ++ String.ofList cs := by
        apply String.ext
        simp
      rw [split, String.utf8ByteSize_append, String.utf8ByteSize_singleton, ← ih]
      simp
  rw [key, String.ofList_toList]

/-! ### Boundaries -/

/-- The greatest boundary not above a position, `passed` bytes having been passed already. -/
def floorFrom (passed : Nat) : List Char → Nat → Nat
  | [], _ => passed
  | c :: cs, position =>
    if c.utf8Size ≤ position then floorFrom (passed + c.utf8Size) cs (position - c.utf8Size)
    else passed

/-- The greatest boundary of a text not above a position; the end of the text is one. -/
def floorBoundary (cs : List Char) (position : Nat) : Nat := floorFrom 0 cs position

/-- The number of characters before a boundary, `passed` characters having been passed already. -/
def countFrom (passed : Nat) : List Char → Nat → Option Nat
  | _, 0 => some passed
  | [], _ + 1 => none
  | c :: cs, position + 1 =>
    if c.utf8Size ≤ position + 1 then countFrom (passed + 1) cs (position + 1 - c.utf8Size)
    else none

/-- The number of characters of a text before a position, absent when it is no boundary. -/
def charCount? (cs : List Char) (position : Nat) : Option Nat := countFrom 0 cs position

/-- The piece of a text between two byte positions, absent unless both are boundaries and in
order. -/
def slice? (cs : List Char) (start stop : Nat) : Option (List Char) := do
  let before ← charCount? cs start
  let upto ← charCount? cs stop
  if start ≤ stop then some ((cs.drop before).take (upto - before)) else none

/-! ### Occurrences -/

/-- The byte position of the first occurrence of a text in what starts at `position`. -/
def findFrom (needle : List Char) : (position : Nat) → List Char → Option Nat
  | position, [] => if needle.isEmpty then some position else none
  | position, c :: cs =>
    if needle.isPrefixOf (c :: cs) then some position
    else findFrom needle (position + c.utf8Size) cs

/-- The byte position of the first occurrence of a text in another. -/
def find? (needle cs : List Char) : Option Nat := findFrom needle 0 cs

/-! ### Repetition and order -/

/-- The text written `count` times over. The empty text is not written at all, as its count may
be too large to be gone through. -/
def repeated (s : String) (count : Nat) : String :=
  if s.isEmpty then "" else Nat.repeat (fun written => written ++ s) count ""

/-- The UTF-8 form of a text. -/
def bytes (s : String) : List UInt8 := s.toList.flatMap String.utf8EncodeChar

/-- The order of texts: that of the first bytes in which they differ. -/
def order (a b : String) : Ordering := compare (bytes a) (bytes b)

end Text

end SheetFormula
