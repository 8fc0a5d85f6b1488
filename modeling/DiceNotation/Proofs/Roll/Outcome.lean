import DiceNotation.Roll

/-!
# Which outcomes an expression has

The outcomes of an expression, said without a source: the outcome has the shape of the expression, every dice term has
as many points as it rolls dice, and every total is what the operator makes of the total before it and of the item.

* `Item.Yields`, `Expr.Yields`: the outcomes of an item and of a row.
* `Expr.yields_of_roll`: a roll that succeeds comes to one of them, whatever the source.
* `rollCommand_of_ok`, `exists_outcome_of_rollCommand`: what a command makes of the outcome of its row.
-/

namespace DiceNotation

/-! ## Dice terms -/

/-- The dice terms of an item, those in a group included, in source order. -/
def Item.diceTerms (item : Item) : List Dice :=
  item.leaves.filterMap Item.dice?

theorem Expr.dice_single (item : Item) : (Expr.single item).dice = item.diceTerms := rfl

theorem Expr.dice_snoc (before : Expr) (op : Operator) (item : Item) :
    (Expr.snoc before op item).dice = before.dice ++ item.diceTerms :=
  List.filterMap_append

theorem Item.diceTerms_group (e : Expr) : (Item.group e).diceTerms = e.dice := rfl

/-! ## Outcomes -/

mutual

/-- The outcomes of an item. -/
inductive Item.Yields : Item → ItemRoll → Prop
  | number (n : Int) : Item.Yields (.number n) (.number n)
  | dice {d : Dice} {points : List Int} (sides : 1 ≤ d.sides) (length : points.length = d.rolls) :
      Item.Yields (.dice d) (.dice ⟨d, points, d.aggregate.apply points⟩)
  | group {e : Expr} {o : ExprRoll} (inner : e.Yields o) : Item.Yields (.group e) (.group o)

/-- The outcomes of a row. -/
inductive Expr.Yields : Expr → ExprRoll → Prop
  | single {item : Item} {r : ItemRoll} (only : item.Yields r) : Expr.Yields (.single item) (.single r r.value)
  | snoc {before : Expr} {o : ExprRoll} {item : Item} {r : ItemRoll} (op : Operator) (row : before.Yields o)
      (last : item.Yields r) : Expr.Yields (.snoc before op item) (.snoc o op r (op.apply o.value r.value))

end

/-! ## Rolls that succeed -/

section

variable {σ : Type} [Source σ] {source after : σ}

theorem length_of_drawPoints {sides : Int} {n : Nat} {points : List Int}
    (h : drawPoints sides n source = (.ok points, after)) : points.length = n := by
  induction n generalizing points source after with
  | zero =>
    cases h
    rfl
  | succ n ih =>
    obtain ⟨point, mid, -, h⟩ := Attempt.bind_eq_ok h
    obtain ⟨points, mid', hpoints, h⟩ := Attempt.bind_eq_ok h
    cases h
    rw [List.length_cons, ih hpoints]

theorem Dice.yields_of_roll {d : Dice} {r : DiceRoll} (h : d.roll source = (.ok r, after)) :
    (Item.dice d).Yields (.dice r) := by
  unfold Dice.roll at h
  split at h
  · cases h
  · rename_i hsides
    obtain ⟨points, mid, hpoints, h⟩ := Attempt.bind_eq_ok h
    cases h
    exact .dice (Int.not_lt.1 hsides) (length_of_drawPoints hpoints)

mutual

theorem Item.yields_of_roll : ∀ {item : Item} {r : ItemRoll} {source after : σ},
    item.roll source = (.ok r, after) → item.Yields r
  | .number n, _, _, _, h => by
    cases h
    exact .number n
  | .dice d, _, _, _, h => by
    obtain ⟨r, mid, hroll, h⟩ := Attempt.bind_eq_ok h
    cases h
    exact Dice.yields_of_roll hroll
  | .group e, _, _, _, h => by
    obtain ⟨o, mid, hroll, h⟩ := Attempt.bind_eq_ok h
    cases h
    exact .group (Expr.yields_of_roll hroll)

/-- A roll that succeeds comes to an outcome of the row. -/
theorem Expr.yields_of_roll : ∀ {e : Expr} {o : ExprRoll} {source after : σ},
    e.roll source = (.ok o, after) → e.Yields o
  | .single item, _, _, _, h => by
    obtain ⟨r, mid, hroll, h⟩ := Attempt.bind_eq_ok h
    cases h
    exact .single (Item.yields_of_roll hroll)
  | .snoc before op item, _, _, _, h => by
    obtain ⟨o, mid, hbefore, h⟩ := Attempt.bind_eq_ok h
    obtain ⟨r, mid', hitem, h⟩ := Attempt.bind_eq_ok h
    cases h
    exact .snoc op (Expr.yields_of_roll hbefore) (Item.yields_of_roll hitem)

end

end

/-! ## Commands -/

/-- The result of a command with some outcome. -/
def ExprRoll.result (outcome : ExprRoll) (checker : Option Checker) (keepDetail : Bool) (language : Language) :
    RollResult where
  value := outcome.value
  success := checker.map (·.check outcome.value)
  checker := checker
  detail := if keepDetail then some outcome else none
  language := language

section

variable {σ : Type} [Source σ] {e : Expr} {source after : σ} {checker : Option Checker} {keepDetail : Bool}
  {language : Language}

theorem rollCommand_of_error {err : RollError} (h : e.roll source = (.error err, after)) :
    rollCommand e checker keepDetail language source = (.error err, after) := by
  rw [rollCommand, Attempt.bind_apply, h]

/-- A command whose row has an outcome succeeds, unless the value has too many digits. -/
theorem rollCommand_of_ok {outcome : ExprRoll} (h : e.roll source = (.ok outcome, after)) :
    rollCommand e checker keepDetail language source =
      (if Writable outcome.value then .ok (outcome.result checker keepDetail language) else .error .unwritable,
        after) := by
  rw [rollCommand, Attempt.bind_apply, h]
  by_cases hw : Writable outcome.value
  · simp only [if_pos hw]
    rfl
  · simp only [if_neg hw]
    rfl

/-- A command that succeeds has an outcome of its row, with a value that can be written. -/
theorem exists_outcome_of_rollCommand {r : RollResult}
    (h : rollCommand e checker keepDetail language source = (.ok r, after)) :
    ∃ outcome : ExprRoll, e.Yields outcome ∧ Writable outcome.value ∧
      r = outcome.result checker keepDetail language := by
  obtain ⟨outcome, mid, hroll, h⟩ := Attempt.bind_eq_ok h
  refine ⟨outcome, Expr.yields_of_roll hroll, ?_⟩
  by_cases hw : Writable outcome.value
  · simp only [if_pos hw] at h
    cases h
    exact ⟨hw, rfl⟩
  · simp only [if_neg hw] at h
    cases h

end

end DiceNotation
