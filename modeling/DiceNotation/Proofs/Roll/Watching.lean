import DiceNotation.Proofs.Roll.Drawing

/-!
# Watched sources

A source may be watched while points are drawn from it. A roll from a watched source comes to the same outcome as the
roll from the source alone, and what is seen are the points of the outcome's dice terms, in source order.

* `Watched`: a source with the draws from it so far.
* `Expr.roll_watched`: what is seen of a row is the points of its outcome.
* `rollCommand_watched`: the outcome and the draws of a command that succeeds.
* `ExprRoll.sides_draws`: the dice drawn from are those that the dice terms ask for.
-/

namespace DiceNotation

/-! ## Draws -/

/-- A die that was asked for by its sides, and the point that it showed. -/
structure Draw where
  sides : Int
  point : Int
  deriving DecidableEq, Repr

/-- A source and the draws from it so far, in order. -/
structure Watched (σ : Type) where
  source : σ
  draws : List Draw := []
  deriving DecidableEq, Repr

namespace Watched

variable {σ : Type}

instance [Source σ] : Source (Watched σ) where
  draw sides w := (Source.draw sides w.source).map fun (point, source) => (point, ⟨source, w.draws ++ [⟨sides, point⟩]⟩)

end Watched

/-- The draws of a dice term's outcome. -/
def DiceRoll.draws (d : DiceRoll) : List Draw :=
  d.points.map fun point => ⟨d.dice.sides, point⟩

/-- The draws of an item's outcome. -/
def ItemRoll.draws (r : ItemRoll) : List Draw :=
  r.diceRolls.flatMap DiceRoll.draws

/-- The draws of a row's outcome, in source order. -/
def ExprRoll.draws (o : ExprRoll) : List Draw :=
  o.diceRolls.flatMap DiceRoll.draws

theorem ExprRoll.draws_snoc (o : ExprRoll) (op : Operator) (r : ItemRoll) (total : Int) :
    (snoc o op r total).draws = o.draws ++ r.draws :=
  List.flatMap_append

/-! ## Rolls that are watched -/

section

variable {σ : Type} [Source σ] {source after : σ}

theorem drawPoint_watched {sides point : Int} (h : drawPoint sides source = (.ok point, after)) (seen : List Draw) :
    drawPoint sides (Watched.mk source seen) = (.ok point, ⟨after, seen ++ [⟨sides, point⟩]⟩) := by
  unfold drawPoint at h ⊢
  simp only [Source.draw]
  cases hdraw : Source.draw sides source with
  | none => rw [hdraw] at h; cases h
  | some drawn =>
    rw [hdraw] at h
    cases h
    rfl

theorem drawPoints_watched {sides : Int} {n : Nat} {points : List Int} (seen : List Draw)
    (h : drawPoints sides n source = (.ok points, after)) :
    drawPoints sides n (Watched.mk source seen) = (.ok points, ⟨after, seen ++ points.map (Draw.mk sides)⟩) := by
  induction n generalizing points source seen with
  | zero =>
    cases h
    simp [drawPoints, Attempt.pure_apply]
  | succ n ih =>
    obtain ⟨point, mid, hpoint, h⟩ := Attempt.bind_eq_ok h
    obtain ⟨points, mid', hpoints, h⟩ := Attempt.bind_eq_ok h
    cases h
    simp only [drawPoints, Attempt.bind_apply, drawPoint_watched hpoint, ih _ hpoints, Attempt.pure_apply]
    simp

theorem Dice.roll_watched {d : Dice} {r : DiceRoll} (h : d.roll source = (.ok r, after)) (seen : List Draw) :
    d.roll (Watched.mk source seen) = (.ok r, ⟨after, seen ++ r.draws⟩) := by
  unfold Dice.roll at h ⊢
  split at h
  · cases h
  · rename_i hsides
    obtain ⟨points, mid, hpoints, h⟩ := Attempt.bind_eq_ok h
    cases h
    rw [if_neg hsides, Attempt.bind_apply, drawPoints_watched seen hpoints]
    rfl

mutual

theorem Item.roll_watched : ∀ {item : Item} {r : ItemRoll} {source after : σ},
    item.roll source = (.ok r, after) → ∀ seen : List Draw,
      item.roll (Watched.mk source seen) = (.ok r, ⟨after, seen ++ r.draws⟩)
  | .number n, _, _, _, h, seen => by
    cases h
    simp [Item.roll, Attempt.pure_apply, ItemRoll.draws, ItemRoll.diceRolls]
  | .dice d, _, _, _, h, seen => by
    obtain ⟨r, mid, hroll, h⟩ := Attempt.bind_eq_ok h
    cases h
    rw [Item.roll, Attempt.bind_apply, Dice.roll_watched hroll seen]
    simp [Attempt.pure_apply, ItemRoll.draws, ItemRoll.diceRolls]
  | .group e, _, _, _, h, seen => by
    obtain ⟨o, mid, hroll, h⟩ := Attempt.bind_eq_ok h
    cases h
    rw [Item.roll, Attempt.bind_apply, Expr.roll_watched hroll seen]
    rfl

/-- What is seen of a row is the points of its outcome. -/
theorem Expr.roll_watched : ∀ {e : Expr} {o : ExprRoll} {source after : σ},
    e.roll source = (.ok o, after) → ∀ seen : List Draw,
      e.roll (Watched.mk source seen) = (.ok o, ⟨after, seen ++ o.draws⟩)
  | .single item, _, _, _, h, seen => by
    obtain ⟨r, mid, hroll, h⟩ := Attempt.bind_eq_ok h
    cases h
    rw [Expr.roll, Attempt.bind_apply, Item.roll_watched hroll seen]
    rfl
  | .snoc before op item, _, _, _, h, seen => by
    obtain ⟨o, mid, hbefore, h⟩ := Attempt.bind_eq_ok h
    obtain ⟨r, mid', hitem, h⟩ := Attempt.bind_eq_ok h
    cases h
    simp only [Expr.roll, Attempt.bind_apply, Expr.roll_watched hbefore seen, Item.roll_watched hitem]
    rw [Attempt.pure_apply, ExprRoll.draws_snoc, List.append_assoc]

end

/-- A command that succeeds comes to an outcome of its row. Watched, it comes to the same, and what is seen are the
draws of the outcome. -/
theorem rollCommand_watched {e : Expr} {checker : Option Checker} {keepDetail : Bool} {language : Language}
    {r : RollResult} (h : rollCommand e checker keepDetail language source = (.ok r, after)) :
    ∃ outcome : ExprRoll, e.Yields outcome ∧ r = outcome.result checker keepDetail language ∧
      rollCommand e checker keepDetail language (Watched.mk source []) = (.ok r, ⟨after, outcome.draws⟩) := by
  obtain ⟨outcome, mid, hroll, -⟩ := Attempt.bind_eq_ok h
  rw [rollCommand_of_ok hroll] at h
  -- whether the value can be written does not depend on the source
  split at h
  · rename_i hw
    cases h
    refine ⟨outcome, Expr.yields_of_roll hroll, rfl, ?_⟩
    rw [rollCommand_of_ok (Expr.roll_watched hroll []), if_pos hw]
    rfl
  · cases h

end

/-! ## Dice that are drawn from -/

mutual

theorem ItemRoll.dice_diceRolls : ∀ {item : Item} {r : ItemRoll}, item.Yields r →
    r.diceRolls.map DiceRoll.dice = item.diceTerms
  | _, _, .number _ => rfl
  | _, _, .dice _ _ => rfl
  | _, _, .group inner => ExprRoll.dice_diceRolls inner

/-- The dice terms of an outcome are those of the expression, in source order. -/
theorem ExprRoll.dice_diceRolls : ∀ {e : Expr} {o : ExprRoll}, e.Yields o →
    o.diceRolls.map DiceRoll.dice = e.dice
  | _, _, .single only => ItemRoll.dice_diceRolls only
  | _, _, .snoc _ row last => by
    rw [ExprRoll.diceRolls, List.map_append, ExprRoll.dice_diceRolls row, ItemRoll.dice_diceRolls last, Expr.dice_snoc]

end

/-- The outcome of a dice term: it has a side, as many points as it rolls dice, and their aggregate for a value. -/
structure DiceRoll.Sound (d : DiceRoll) : Prop where
  sides : 1 ≤ d.dice.sides
  length : d.points.length = d.dice.rolls
  value : d.value = d.dice.aggregate.apply d.points

mutual

theorem ItemRoll.sound_of_mem : ∀ {item : Item} {r : ItemRoll}, item.Yields r → ∀ d ∈ r.diceRolls, d.Sound
  | _, _, .number _ => nofun
  | _, _, .dice sides length => by
    intro d hd
    cases List.mem_singleton.1 hd
    exact ⟨sides, length, rfl⟩
  | _, _, .group inner => ExprRoll.sound_of_mem inner

theorem ExprRoll.sound_of_mem : ∀ {e : Expr} {o : ExprRoll}, e.Yields o → ∀ d ∈ o.diceRolls, d.Sound
  | _, _, .single only => ItemRoll.sound_of_mem only
  | _, _, .snoc _ row last => List.forall_mem_append.2 ⟨ExprRoll.sound_of_mem row, ItemRoll.sound_of_mem last⟩

end

theorem DiceRoll.Sound.sides_draws {d : DiceRoll} (h : d.Sound) :
    d.draws.map Draw.sides = List.replicate d.dice.rolls d.dice.sides := by
  rw [draws, List.map_map, ← h.length]
  exact List.map_const'

/-- The dice drawn from are those that the dice terms ask for. -/
theorem ExprRoll.sides_draws {e : Expr} {o : ExprRoll} (h : e.Yields o) : o.draws.map Draw.sides = asks e.dice := by
  have hsides : ∀ d ∈ o.diceRolls, d.draws.map Draw.sides = List.replicate d.dice.rolls d.dice.sides :=
    fun d hd => (ExprRoll.sound_of_mem h d hd).sides_draws
  rw [draws, List.map_flatMap, List.flatMap_def, List.map_congr_left hsides, ← List.flatMap_def, asks,
    ← ExprRoll.dice_diceRolls h, List.flatMap_map]

end DiceNotation
