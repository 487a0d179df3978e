import SheetFormula.Formula

/-!
# Canonical text

The one text that stands for all spellings of a formula. Operators have a space on either side, a
semicolon has one after it, booleans are written as calls, and parentheses group only where the
grammar would group otherwise: a left operand must bind tighter than its operator, a right operand
at least as tight. Numbers that no literal spells are written as the parenthesised arithmetic that
yields them.
-/

namespace SheetFormula

namespace Formula

/-- How tightly an operator holds its sides together, counted from the loosest operators. The writer
has this table of its own. -/
def operatorTightness : Operator → Nat
  | .equality _ | .ordering _ => 0
  | .concat => 1
  | .arithmetic op => if op.isAdditive then 1 else 2

/-- The table of the writer agrees with the levels at which operators are read. -/
@[simp] theorem operatorTightness_eq (op : Operator) : operatorTightness op = op.level.rank := by
  rcases op with op | _ | op | op
  case arithmetic => cases op <;> rfl
  all_goals rfl

/-- How tightly a formula holds together; terms do so more than all operators. -/
def tightness : Formula → Nat
  | .binary op _ _ => operatorTightness op
  | _ => 3

@[simp] theorem tightness_binary (op : Operator) (left right : Formula) :
    (binary op left right).tightness = op.level.rank := operatorTightness_eq op

/-- The canonical text of a number. -/
def numberText : Binary64 → List Char
  | .nan => "(0 % 0)".toList
  | .infinite negative => (if negative then "(0 - 10 ^ 400)" else "(10 ^ 400)").toList
  | x => x.text

/-- The canonical text of a value. -/
def valueText : Value → List Char
  | .text s => Text.quoted s.toList
  | .number x => numberText x
  | .boolean b => (if b then "TRUE()" else "FALSE()").toList

/-- The text between parentheses, if they are asked for. -/
def grouped (parens : Bool) (cs : List Char) : List Char :=
  if parens then '(' :: (cs ++ [')']) else cs

/-- Texts with a semicolon and a space between them. -/
def listed : List (List Char) → List Char
  | [] => []
  | [cs] => cs
  | cs :: more => cs ++ ';' :: ' ' :: listed more

/-- A name with a list of texts in parentheses after it. -/
def applied (name : String) (texts : List (List Char)) : List Char :=
  name.toList ++ '(' :: (listed texts ++ [')'])

mutual

/-- The canonical text of a formula, without the equals sign that opens it. -/
def text : Formula → List Char
  | .literal v => valueText v
  | .reference name => name.toList
  | .call name arguments => applied name (texts arguments)
  | .negation operand => applied "NOT" [text operand]
  | .binary op left right =>
    let own := tightness (.binary op left right)
    grouped (left.tightness ≤ own) (text left) ++
      ' ' :: (op.symbol.text.toList ++ ' ' :: grouped (right.tightness < own) (text right))
  | .junction kind operands => applied kind.name (texts operands)
  | .conditional condition onTrue onFalse =>
    applied "IF" [text condition, text onTrue, text onFalse]

/-- The canonical texts of formulas. -/
def texts : List Formula → List (List Char)
  | [] => []
  | f :: fs => text f :: texts fs

end

theorem text_binary (op : Operator) (left right : Formula) :
    text (.binary op left right) =
      grouped (left.tightness ≤ op.level.rank) (text left) ++
        ' ' :: (op.symbol.text.toList ++
          ' ' :: grouped (right.tightness < op.level.rank) (text right)) := by
  rw [text, tightness_binary]

/-- The canonical text of a formula as a string. -/
def display (f : Formula) : String := String.ofList f.text

end Formula

end SheetFormula
