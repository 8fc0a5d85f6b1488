/-!
# Limits

Five bounds that keep a command small enough to be rolled. Every bound is at least 1.
-/

namespace DiceNotation

/-- A whole number that is at least 1. -/
abbrev Bound := { n : Nat // 0 < n }

/-- The bounds on a command. -/
structure Limits where
  /-- Numbers and dice terms, groups not counted. -/
  itemCount : Bound := ⟨20, by decide⟩
  /-- Sides of one dice term. -/
  sides : Bound := ⟨1000, by decide⟩
  /-- Dice rolled by all dice terms together. -/
  rolls : Bound := ⟨100, by decide⟩
  /-- Magnitude of a number item and of a checker's target. -/
  number : Bound := ⟨65536, by decide⟩
  /-- Groups open at one time. -/
  depth : Bound := ⟨32, by decide⟩
  deriving DecidableEq

/-- The bounds that hold when none are set. -/
def Limits.standard : Limits := {}

/-- One of the five bounds. -/
inductive Limit where
  | itemCount
  | sides
  | rolls
  | number
  | depth
  deriving DecidableEq, Repr

namespace Limit

/-- The name of a bound in settings and messages. -/
def name : Limit → String
  | itemCount => "max_item_count"
  | sides => "max_dice_sides"
  | rolls => "max_roll_times"
  | number => "max_number_item_value"
  | depth => "max_depth"

/-- All bounds, in the order in which they are listed. -/
def all : List Limit :=
  [itemCount, sides, rolls, number, depth]

theorem mem_all (l : Limit) : l ∈ all := by
  cases l <;> decide

end Limit

/-- The value of a bound. -/
def Limits.get (L : Limits) : Limit → Bound
  | .itemCount => L.itemCount
  | .sides => L.sides
  | .rolls => L.rolls
  | .number => L.number
  | .depth => L.depth

/-- The bounds, each given by its kind. -/
def Limits.ofFn (f : Limit → Bound) : Limits :=
  ⟨f .itemCount, f .sides, f .rolls, f .number, f .depth⟩

@[simp] theorem Limits.get_ofFn (f : Limit → Bound) (l : Limit) : (Limits.ofFn f).get l = f l := by
  cases l <;> rfl

end DiceNotation
