import SheetFormula.Token

/-!
# Syntax errors

Why a text is no formula, and where. A position counts the bytes of the text after the equals
sign that opens the formula.
-/

namespace SheetFormula

/-- Why no token can be read at some place of a formula. -/
inductive LexicalFault where
  /-- No token begins with this character. -/
  | unknownCharacter (c : Char)
  /-- The digits, given as written, denote no finite number. -/
  | invalidNumber (literal : String)
  /-- The closing quote is missing. -/
  | unterminatedText
  /-- An escape in a quoted text spells no character. -/
  | invalidEscape
  deriving DecidableEq

/-- Why a text is no formula. -/
inductive SyntaxFault where
  /-- The whole text is empty. -/
  | emptyExpression
  /-- No token can be read. -/
  | lexical (fault : LexicalFault)
  /-- A token that cannot begin a term. -/
  | unexpectedToken (token : Token)
  /-- Something else stands where the grammar needs what is named. -/
  | expected (wanted : String)
  /-- A minus sign that begins a term is not followed by a number. -/
  | expectedNumber
  /-- The text ends where a token is needed. -/
  | unexpectedEnd
  /-- A token after the end of the expression. -/
  | trailingToken (token : Token)
  /-- The rules nest as deep as the ceiling. -/
  | maximumDepth
  deriving DecidableEq

/-- A **syntax error**: its cause, and the byte position at which it was found. -/
structure SyntaxError where
  position : Nat
  fault : SyntaxFault
  deriving DecidableEq

namespace LexicalFault

/-- The wording of a lexical fault. -/
def message : LexicalFault → String
  | unknownCharacter c => "unknown character '" ++ c.toString ++ "'"
  | invalidNumber literal => "invalid number '" ++ literal ++ "'"
  | unterminatedText => "unterminated string literal"
  | invalidEscape => "invalid escape sequence in string literal"

end LexicalFault

namespace SyntaxFault

/-- The wording of a cause. -/
def message : SyntaxFault → String
  | emptyExpression => "empty expression"
  | lexical fault => fault.message
  | unexpectedToken token => "unexpected " ++ token.display
  | expected wanted => "expecting " ++ wanted
  | expectedNumber => "expecting number after '-'"
  | unexpectedEnd => "unexpected end of input"
  | trailingToken token => "expecting EOF, found " ++ token.display
  | maximumDepth => "maximum depth reached"

end SyntaxFault

namespace SyntaxError

/-- The wording of a syntax error. -/
def message (e : SyntaxError) : String :=
  "syntax error near index " ++ toString e.position ++ ": " ++ e.fault.message

end SyntaxError

end SheetFormula
