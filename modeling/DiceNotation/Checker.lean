import DiceNotation.Vocabulary

/-!
# Checkers

A checker compares the value of a command with a target; the comparison's outcome is the verdict on a roll.
-/

namespace DiceNotation

/-- A comparison with a target. -/
inductive Compare where
  | gt
  | ge
  | lt
  | le
  | eq
  deriving DecidableEq, Repr

namespace Compare

/-- How a comparison is written. -/
def symbol : Compare → String
  | gt => ">"
  | ge => ">="
  | lt => "<"
  | le => "<="
  | eq => "="

/-- The comparison that a text starts with, and what follows it; the longer of two spellings wins. -/
def scan? : List Char → Option (Compare × List Char)
  | '>' :: '=' :: rest => some (ge, rest)
  | '<' :: '=' :: rest => some (le, rest)
  | '=' :: '=' :: rest => some (eq, rest)
  | '>' :: rest => some (gt, rest)
  | '<' :: rest => some (lt, rest)
  | '=' :: rest => some (eq, rest)
  | _ => none

/-- The comparison that a text is; equality has two spellings. -/
def ofText? (s : String) : Option Compare :=
  match scan? s.toList with
  | some (c, []) => some c
  | _ => none

/-- Whether a value stands in a comparison to a target. -/
def holds : Compare → Int → Int → Bool
  | gt, value, target => target < value
  | ge, value, target => target ≤ value
  | lt, value, target => value < target
  | le, value, target => value ≤ target
  | eq, value, target => value = target

theorem ofText?_symbol (c : Compare) : ofText? c.symbol = some c := by
  cases c <;> decide

end Compare

/-- A comparison and the target it compares with. -/
structure Checker where
  compare : Compare
  target : Int
  deriving DecidableEq, Repr

/-- The verdict on a value. -/
def Checker.check (checker : Checker) (value : Int) : Bool :=
  checker.compare.holds value checker.target

end DiceNotation
