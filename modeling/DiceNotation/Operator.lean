import DiceNotation.Text.Blank
import DiceNotation.Vocabulary

/-!
# Operators

The three operators of an expression. They share one precedence level: an expression is folded from left to right.
-/

namespace DiceNotation

/-- A binary operator on whole numbers. -/
inductive Operator where
  | add
  | sub
  | mul
  deriving DecidableEq, Repr

namespace Operator

/-- The character that an operator is written as. -/
def symbol : Operator → Char
  | add => '+'
  | sub => '-'
  | mul => '*'

/-- The operator that a character stands for; `x` in either case is multiplication. -/
def ofChar? : Char → Option Operator
  | '+' => some add
  | '-' => some sub
  | '*' => some mul
  | 'x' => some mul
  | 'X' => some mul
  | _ => none

/-- The operator that a text stands for. -/
def ofText? (s : String) : Option Operator :=
  match s.toList with
  | [c] => ofChar? c
  | _ => none

/-- The value of an operator. -/
def apply : Operator → Int → Int → Int
  | add, a, b => a + b
  | sub, a, b => a - b
  | mul, a, b => a * b

/-- The operator that a text starts with, spaces and tabs aside, and what follows it. -/
def scan? (cs : List Char) : Option (Operator × List Char) :=
  match Text.skipGap cs with
  | c :: rest => (ofChar? c).map (·, rest)
  | [] => none

@[simp] theorem ofChar?_symbol (op : Operator) : ofChar? op.symbol = some op := by
  cases op <;> rfl

end Operator

end DiceNotation
