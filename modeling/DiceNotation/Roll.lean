import DiceNotation.Attempt
import DiceNotation.Checker
import DiceNotation.Expr
import DiceNotation.Language
import DiceNotation.Numeral
import DiceNotation.Source

/-!
# Rolling

An expression is rolled from left to right. The outcome keeps the shape of the expression: a dice term keeps its
points, and a row keeps the running total behind each of its items.

* `Dice.roll`, `Item.roll`, `Expr.roll`: the outcome of a term, an item and a row, drawn from a source.
* `rollCommand`: the outcome of a row and the verdict of its checker.
-/

namespace DiceNotation

/-! ## Outcomes -/

/-- The points of a dice term and what they come to. -/
structure DiceRoll where
  dice : Dice
  points : List Int
  value : Int
  deriving DecidableEq, Repr

mutual

/-- The outcome of one item. -/
inductive ItemRoll where
  | number (n : Int)
  | dice (d : DiceRoll)
  | group (e : ExprRoll)
  | unknown (text : String)

/-- The outcome of a row, with the running total behind each item. -/
inductive ExprRoll where
  | single (item : ItemRoll) (total : Int)
  | snoc (before : ExprRoll) (op : Operator) (item : ItemRoll) (total : Int)

end

deriving instance DecidableEq for ItemRoll, ExprRoll
deriving instance Repr for ItemRoll, ExprRoll

namespace ExprRoll

/-- The total behind the last item. -/
def value : ExprRoll → Int
  | single _ total => total
  | snoc _ _ _ total => total

/-- The running totals, in source order. -/
def partials : ExprRoll → List Int
  | single _ total => [total]
  | snoc before _ _ total => before.partials ++ [total]

/-- The first item. -/
def first : ExprRoll → ItemRoll
  | single item _ => item
  | snoc before _ _ _ => before.first

/-- The operators and items after the first item. -/
def rest : ExprRoll → List (Operator × ItemRoll)
  | single _ _ => []
  | snoc before op item _ => before.rest ++ [(op, item)]

/-- Whether the row is a lone number. -/
def isLoneNumber : ExprRoll → Bool
  | single (.number _) _ => true
  | _ => false

end ExprRoll

/-- The value of an item's outcome. -/
def ItemRoll.value : ItemRoll → Int
  | number n => n
  | dice d => d.value
  | group e => e.value
  | unknown _ => 0

/-- The outcome of a command. The outcome of its expression is kept only on demand. -/
structure RollResult where
  value : Int
  success : Option Bool := none
  checker : Option Checker := none
  detail : Option ExprRoll := none
  language : Language := .en
  deriving DecidableEq, Repr

/-! ## Drawing -/

/-- Why a roll comes to nothing. -/
inductive RollError where
  /-- A die without a side. -/
  | noSides (sides : Int)
  /-- An item of no known kind. -/
  | unknownItem (text : String)
  /-- The source had no point left for a die. -/
  | exhausted (sides : Int)
  /-- A number to be reported has too many digits: the value, or the sides of a die without one. -/
  | unwritable
  deriving DecidableEq, Repr

/-- The report of a roll that comes to nothing. -/
def RollError.message : RollError → String
  | noSides sides => "Dice must have at least 1 side, got " ++ toString sides
  | unknownItem text => "Unknown expression item: " ++ Text.quoted text
  | exhausted sides => "randint(1, " ++ toString sides ++ ")"
  | unwritable => DigitError.write.message

/-- A computation that draws points from a source and may fail; what has been drawn stays drawn. -/
abbrev RollM (σ : Type) := Attempt RollError σ

variable {σ : Type} [Source σ]

/-- One point of a die. -/
def drawPoint (sides : Int) : RollM σ Int := fun source =>
  match Source.draw sides source with
  | some (point, source) => (.ok point, source)
  | none => (.error (.exhausted sides), source)

/-- The points of some dice with the same number of sides. -/
def drawPoints (sides : Int) : Nat → RollM σ (List Int)
  | 0 => pure []
  | n + 1 => do
    let point ← drawPoint sides
    let points ← drawPoints sides n
    pure (point :: points)

/-- The report of a die without a side, which needs its sides in writing. -/
def RollError.ofSides (sides : Int) : RollError :=
  if Writable sides then .noSides sides else .unwritable

/-- Roll a dice term. That its dice have a side is checked even if none of them is rolled. -/
def Dice.roll (d : Dice) : RollM σ DiceRoll :=
  if d.sides < 1 then throw (.ofSides d.sides)
  else do
    let points ← drawPoints d.sides d.rolls
    pure ⟨d, points, d.aggregate.apply points⟩

mutual

/-- Roll an item. -/
def Item.roll : Item → RollM σ ItemRoll
  | .number n => pure (.number n)
  | .dice d => return .dice (← d.roll)
  | .group e => return .group (← e.roll)
  | .unknown text => throw (.unknownItem text)

/-- Roll a row from left to right. -/
def Expr.roll : Expr → RollM σ ExprRoll
  | .single item => do
    let item ← item.roll
    pure (.single item item.value)
  | .snoc before op item => do
    let before ← before.roll
    let item ← item.roll
    pure (.snoc before op item (op.apply before.value item.value))

end

/-- Roll an expression and let a checker judge its value, which has to be one that can be written. -/
def rollCommand (e : Expr) (checker : Option Checker) (keepDetail : Bool) (language : Language) :
    RollM σ RollResult := do
  let outcome ← e.roll
  if Writable outcome.value then
    pure {
      value := outcome.value
      success := checker.map (·.check outcome.value)
      checker
      detail := if keepDetail then some outcome else none
      language }
  else throw .unwritable

end DiceNotation
