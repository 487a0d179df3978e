import SheetFormula.Binary64.Decimal
import SheetFormula.Text.Quoted

/-!
# Tokens

The words of a formula: numbers without a sign, quoted texts, names, and symbols. `TRUE`, `IF` and
the like are names here; the grammar gives them their meaning.
-/

namespace SheetFormula

/-- The symbols of a formula. -/
inductive Symbol where
  | plus | minus | star | slash | caret | percent | ampersand
  | equal | notEqual | greater | greaterEqual | less | lessEqual
  | semicolon | leftParen | rightParen
  deriving DecidableEq

namespace Symbol

/-- All symbols. -/
def all : List Symbol :=
  [plus, minus, star, slash, caret, percent, ampersand, equal, notEqual, greater, greaterEqual,
    less, lessEqual, semicolon, leftParen, rightParen]

/-- The spelling of a symbol. -/
def text : Symbol → String
  | plus => "+"
  | minus => "-"
  | star => "*"
  | slash => "/"
  | caret => "^"
  | percent => "%"
  | ampersand => "&"
  | equal => "="
  | notEqual => "<>"
  | greater => ">"
  | greaterEqual => ">="
  | less => "<"
  | lessEqual => "<="
  | semicolon => ";"
  | leftParen => "("
  | rightParen => ")"

end Symbol

/-- A **token**: a number, a text (already without its quotes and escapes), a name or a symbol. -/
inductive Token where
  | number (x : Binary64)
  | text (s : String)
  | name (s : String)
  | symbol (s : Symbol)
  deriving DecidableEq

namespace Token

/-- Whether two tokens are **equal**: numbers are compared as numbers, so that the two zeros are one
and not-a-number is none, all else as it is written. -/
def equals : Token → Token → Bool
  | number x, number y => x.equals y
  | t, u => t == u

/-- A token as messages name it. -/
def display : Token → String
  | number x => "number " ++ x.format
  | text s => "string " ++ String.ofList (Text.quotedForMessage s.toList)
  | name s => "identifier " ++ s
  | symbol s => "'" ++ s.text ++ "'"

@[simp] theorem equals_symbol (t : Token) (s : Symbol) : t.equals (symbol s) = (t == symbol s) := by
  cases t <;> rfl

end Token

end SheetFormula
