import DiceNotation.Proofs.Excess
import DiceNotation.Proofs.Roll.Consistency
import DiceNotation.Trace

/-!
# How deep calls are nested

A function that calls itself is cut off at a level when the calls that are nested deeper are answered by anything else.
If every call goes down some measure, the function cut off at a level above the measure of an argument does the same on
it: no call is nested as deep as that. Functions on expressions call themselves for groups only, so that the nesting of
an expression bounds how deep their calls are nested.

* `nested`: a function by its body, cut off at a level.
* `nested_eq`: a function that is cut off deep enough.
* `Expr.leavesBy`, `Expr.rollBy`, `ExprRoll.charsBy`: the leaves, the roll and the trace of a row, by what is done with a
  group.
* `Expr.nested_leaves`, `Expr.nested_roll`, `ExprRoll.nested_chars`: their calls are nested no deeper than the groups.
-/

namespace DiceNotation

/-! ## Functions that are cut off -/

section

variable {α : Type} {β : Type}

/-- The function with some body, with so many calls nested in each other and anything else in place of a further one. -/
def nested (body : (α → β) → α → β) (cut : α → β) : Nat → α → β
  | 0 => cut
  | n + 1 => body (nested body cut n)

/-- If the body at an argument asks only about arguments of a lower level, then no more calls are nested than the level
says, and it does not matter what stands in place of further ones. -/
theorem nested_eq {body : (α → β) → α → β} {f : α → β} {level : α → Nat}
    (hbody : ∀ (g : α → β) (a : α), (∀ b, level b < level a → g b = f b) → body g a = f a) (cut : α → β) :
    ∀ {n : Nat} {a : α}, level a < n → nested body cut n a = f a
  | 0, _, ha => absurd ha (Nat.not_lt_zero _)
  | _ + 1, _, ha => hbody _ _ fun _ hb => nested_eq hbody cut (Nat.lt_of_lt_of_le hb (Nat.le_of_lt_succ ha))

end

/-! ## Leaves -/

/-- The leaves of an item, by those of a group. -/
def Item.leavesBy (group : Expr → List Item) : Item → List Item
  | .group e => group e
  | item => [item]

/-- The leaves of a row, by those of a group. -/
def Expr.leavesBy (group : Expr → List Item) : Expr → List Item
  | .single item => item.leavesBy group
  | .snoc before _ item => before.leavesBy group ++ item.leavesBy group

theorem Item.leavesBy_eq {group : Expr → List Item} {n : Nat} (h : ∀ e : Expr, e.nesting < n → group e = e.leaves) :
    ∀ {item : Item}, item.nesting ≤ n → item.leavesBy group = item.leaves
  | .group e, hn => h e hn
  | .number _, _ | .dice _, _ | .unknown _, _ => rfl

theorem Expr.leavesBy_eq {group : Expr → List Item} {n : Nat} (h : ∀ e : Expr, e.nesting < n → group e = e.leaves) :
    ∀ {e : Expr}, e.nesting ≤ n → e.leavesBy group = e.leaves
  | .single _, hn => Item.leavesBy_eq h hn
  | .snoc before op item, hn => by
    obtain ⟨hbefore, hitem⟩ := Nat.max_le.1 hn
    rw [Expr.leavesBy, Expr.leavesBy_eq h hbefore, Item.leavesBy_eq h hitem, Expr.leaves]

/-- The walk over the leaves of an expression goes no deeper than its groups are nested. -/
theorem Expr.nested_leaves (cut : Expr → List Item) {n : Nat} {e : Expr} (h : e.nesting < n) :
    nested Expr.leavesBy cut n e = e.leaves :=
  nested_eq (fun _ _ hgroup => Expr.leavesBy_eq hgroup (Nat.le_refl _)) cut h

/-! ## Rolls -/

section

variable {σ : Type} [Source σ]

/-- Roll an item, by the roll of a group. -/
def Item.rollBy (group : Expr → RollM σ ExprRoll) : Item → RollM σ ItemRoll
  | .group e => return .group (← group e)
  | item => item.roll

/-- Roll a row from left to right, by the roll of a group. -/
def Expr.rollBy (group : Expr → RollM σ ExprRoll) : Expr → RollM σ ExprRoll
  | .single item => do
    let item ← item.rollBy group
    pure (.single item item.value)
  | .snoc before op item => do
    let before ← before.rollBy group
    let item ← item.rollBy group
    pure (.snoc before op item (op.apply before.value item.value))

theorem Item.rollBy_eq {group : Expr → RollM σ ExprRoll} {n : Nat} (h : ∀ e : Expr, e.nesting < n → group e = e.roll) :
    ∀ {item : Item}, item.nesting ≤ n → item.rollBy group = item.roll
  | .group e, hn => by rw [Item.rollBy, h e hn, Item.roll]
  | .number _, _ | .dice _, _ | .unknown _, _ => rfl

theorem Expr.rollBy_eq {group : Expr → RollM σ ExprRoll} {n : Nat} (h : ∀ e : Expr, e.nesting < n → group e = e.roll) :
    ∀ {e : Expr}, e.nesting ≤ n → e.rollBy group = e.roll
  | .single _, hn => by rw [Expr.rollBy, Item.rollBy_eq h hn, Expr.roll]
  | .snoc before op item, hn => by
    obtain ⟨hbefore, hitem⟩ := Nat.max_le.1 hn
    rw [Expr.rollBy, Expr.rollBy_eq h hbefore, Item.rollBy_eq h hitem, Expr.roll]

/-- Rolling an expression goes no deeper than its groups are nested. -/
theorem Expr.nested_roll (cut : Expr → RollM σ ExprRoll) {n : Nat} {e : Expr} (h : e.nesting < n) :
    nested Expr.rollBy cut n e = e.roll :=
  nested_eq (fun _ _ hgroup => Expr.rollBy_eq hgroup (Nat.le_refl _)) cut h

end

/-! ## Traces -/

/-- The trace of an item, by that of a group. -/
def ItemRoll.charsBy (group : ExprRoll → List Char) : ItemRoll → List Char
  | .group e => '(' :: group e ++ [')']
  | item => item.chars

/-- The trace of a row, by that of a group. -/
def ExprRoll.charsBy (group : ExprRoll → List Char) : ExprRoll → List Char
  | .single item _ => item.charsBy group
  | .snoc before op item _ => before.charsBy group ++ ' ' :: op.symbol :: ' ' :: item.charsBy group

theorem ItemRoll.charsBy_eq {group : ExprRoll → List Char} {n : Nat}
    (h : ∀ o : ExprRoll, o.rolled.nesting < n → group o = o.chars) :
    ∀ {r : ItemRoll}, r.rolled.nesting ≤ n → r.charsBy group = r.chars
  | .group o, hn => by rw [ItemRoll.charsBy, h o hn, ItemRoll.chars]
  | .number _, _ | .dice _, _ | .unknown _, _ => rfl

theorem ExprRoll.charsBy_eq {group : ExprRoll → List Char} {n : Nat}
    (h : ∀ o : ExprRoll, o.rolled.nesting < n → group o = o.chars) :
    ∀ {o : ExprRoll}, o.rolled.nesting ≤ n → o.charsBy group = o.chars
  | .single _ _, hn => ItemRoll.charsBy_eq h hn
  | .snoc before op item total, hn => by
    obtain ⟨hbefore, hitem⟩ := Nat.max_le.1 hn
    rw [ExprRoll.charsBy, ExprRoll.charsBy_eq h hbefore, ItemRoll.charsBy_eq h hitem, ExprRoll.chars]

/-- Writing an outcome goes no deeper than the groups of what was rolled are nested. -/
theorem ExprRoll.nested_chars (cut : ExprRoll → List Char) {n : Nat} {o : ExprRoll} (h : o.rolled.nesting < n) :
    nested ExprRoll.charsBy cut n o = o.chars :=
  nested_eq (fun _ _ hgroup => ExprRoll.charsBy_eq hgroup (Nat.le_refl _)) cut h

end DiceNotation
