import DiceNotation.Dice
import DiceNotation.Operator

/-!
# Expressions

An expression is a row of items joined by operators, with no precedence among them. The row is built from the left:
it is one item, or a row, an operator and one item more. An item is a number, a dice term or an expression in
parentheses; a hand-built expression may also hold an item of no known kind, which has a text and nothing else.

* `Expr.items`, `Expr.operators`: the top row, in source order.
* `Expr.leaves`, `Expr.dice`, `Expr.itemCount`: the items that are no groups, inside groups as well, in source order.
-/

namespace DiceNotation

mutual

/-- One item of an expression. -/
inductive Item where
  | number (n : Int)
  | dice (d : Dice)
  | group (e : Expr)
  | unknown (text : String)

/-- A row of items joined by operators. -/
inductive Expr where
  | single (item : Item)
  | snoc (before : Expr) (op : Operator) (item : Item)

end

deriving instance DecidableEq for Item, Expr
deriving instance Repr for Item, Expr

namespace Expr

/-- A row of items behind an optional row and operator. -/
def join : Option (Expr × Operator) → Item → Expr
  | none, item => .single item
  | some (before, op), item => .snoc before op item

/-- The expression with a first item and a list of operators and items. -/
def ofItems (first : Item) (rest : List (Operator × Item)) : Expr :=
  rest.foldl (fun e (op, item) => .snoc e op item) (.single first)

/-! ## The top row -/

/-- The first item. -/
def first : Expr → Item
  | .single item => item
  | .snoc before _ _ => before.first

/-- The operators and items after the first item. -/
def rest : Expr → List (Operator × Item)
  | .single _ => []
  | .snoc before op item => before.rest ++ [(op, item)]

/-- The operators of the top row. -/
def operators (e : Expr) : List Operator :=
  e.rest.map (·.1)

theorem foldl_snoc_first_rest : ∀ (e : Expr) (more : List (Operator × Item)),
    (e.rest ++ more).foldl (fun e (op, item) => .snoc e op item) (.single e.first) =
      more.foldl (fun e (op, item) => .snoc e op item) e
  | .single _, _ => rfl
  | .snoc before op item, more => by simp [rest, first, foldl_snoc_first_rest before]

/-- An expression is the one with its first item and the items after it. -/
theorem ofItems_first_rest (e : Expr) : ofItems e.first e.rest = e := by
  simpa [ofItems] using foldl_snoc_first_rest e []

end Expr

/-! ## Leaves -/

mutual

/-- The items that are no groups. -/
def Item.leaves : Item → List Item
  | .group e => e.leaves
  | item => [item]

/-- The items that are no groups, in source order. -/
def Expr.leaves : Expr → List Item
  | .single item => item.leaves
  | .snoc before _ item => before.leaves ++ item.leaves

end

/-- The dice of an item that is a dice term. -/
def Item.dice? : Item → Option Dice
  | .dice d => some d
  | _ => none

/-- Whether an item is a number or a dice term. -/
def Item.isTerm : Item → Bool
  | .number _ => true
  | .dice _ => true
  | _ => false

namespace Expr

/-- The dice terms, those in groups included, in source order. -/
def dice (e : Expr) : List Dice :=
  e.leaves.filterMap Item.dice?

/-- How many numbers and dice terms there are, groups not counted. -/
def itemCount (e : Expr) : Nat :=
  e.leaves.countP Item.isTerm

end Expr

end DiceNotation
