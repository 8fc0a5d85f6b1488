import DiceNotation.Expr

/-!
# Digests of expressions

Two expressions have the same digest when they have the same shape and their numbers agree modulo the prime `2^61 - 1`,
sign kept apart; `-1` has the residue of `-2`.
-/

namespace DiceNotation

/-- The residue of a number, with the number's sign. -/
def residue (n : Int) : Int :=
  let r := n.tmod 0x1fffffffffffffff
  if r = -1 then -2 else r

mutual

/-- An item with its numbers reduced. -/
def Item.digest : Item → Item
  | .number n => .number (residue n)
  | .dice d => .dice { d with count := residue d.count, sides := residue d.sides }
  | .group e => .group e.digest
  | .unknown text => .unknown text

/-- An expression with its numbers reduced. -/
def Expr.digest : Expr → Expr
  | .single item => .single item.digest
  | .snoc before op item => .snoc before.digest op item.digest

end

end DiceNotation
