import DiceNotation.Text.Blank
import DiceNotation.Vocabulary

/-!
# Dice terms

A dice term such as `3d6` or `2d20max`: how many dice, how many sides, and how the points become one number.

* `Aggregate.apply`: the sum, the mean rounded down, the greatest or the least of the points; 0 when there are none.
-/

namespace DiceNotation

/-- How the points of one dice term become its value. -/
inductive Aggregate where
  | sum
  | avg
  | max
  | min
  deriving DecidableEq, Repr

namespace Aggregate

/-- The word for an aggregate. -/
def word : Aggregate → String
  | sum => "sum"
  | avg => "avg"
  | max => "max"
  | min => "min"

/-- The aggregate that three lower-case letters name. -/
def ofLetters? : Char → Char → Char → Option Aggregate
  | 's', 'u', 'm' => some sum
  | 'a', 'v', 'g' => some avg
  | 'm', 'a', 'x' => some max
  | 'm', 'i', 'n' => some min
  | _, _, _ => none

/-- The aggregate that a word names. -/
def ofText? (s : String) : Option Aggregate :=
  match s.toList with
  | [a, b, c] => ofLetters? a b c
  | _ => none

/-- The aggregate that a text goes on with, in letters of either case, and what follows it; without one it is the sum,
and nothing is passed over. -/
def scan (cs : List Char) : Aggregate × List Char :=
  match Text.skipGap cs with
  | a :: b :: c :: rest =>
    match ofLetters? a.toLower b.toLower c.toLower with
    | some aggregate => (aggregate, rest)
    | none => (sum, cs)
  | _ => (sum, cs)

/-- The aggregate of some points. -/
def apply : Aggregate → List Int → Int
  | _, [] => 0
  | sum, points => points.foldr (· + ·) 0
  | avg, points => (points.foldr (· + ·) 0).fdiv points.length
  | max, p :: points => points.foldl Max.max p
  | min, p :: points => points.foldl Min.min p

theorem ofText?_word (a : Aggregate) : ofText? a.word = some a := by
  cases a <;> decide

end Aggregate

/-- Some dice of one kind, rolled together. A count of zero or less rolls none of them. -/
structure Dice where
  count : Int
  sides : Int
  aggregate : Aggregate := .sum
  deriving DecidableEq, Repr

/-- How many dice a term rolls. -/
def Dice.rolls (d : Dice) : Nat :=
  d.count.toNat

end DiceNotation
