import DiceNotation.Proofs.Reading.Acceptance
import DiceNotation.Proofs.Roll.Aggregate
import DiceNotation.Proofs.Roll.Consistency

/-!
# Better points

An expression in which every operator is an addition comes to no less when its dice show no less. Two rolls of it, from
points of which the second ones are no less at any place, take the points at the same places, and at every level each
running total of the second roll is no less than the one at its place in the first.

* `Item.Additive`, `Expr.Additive`: expressions that add.
* `Rises`: two computations on such points take equally many of them and come to related results.
* `Rises.bind`: one after another.
* `ExprRoll.Below`: two outcomes, the totals of the second of which are no less.
* `Expr.rises`: two rolls of an expression that adds.
* `rollCommand_monotone`: two rolls of a command, their totals, values and verdicts.
* `rollCommand_sum_unwritable`: a command that adds and has points enough, and yet fails.
-/

namespace DiceNotation

/-! ## Expressions that add -/

mutual

/-- An item in which every operator is an addition. -/
inductive Item.Additive : Item → Prop
  | number (n : Int) : Item.Additive (.number n)
  | dice (d : Dice) : Item.Additive (.dice d)
  | group {e : Expr} (inner : e.Additive) : Item.Additive (.group e)

/-- An expression of numbers, dice terms and groups in which every operator, at any level, is an addition. -/
inductive Expr.Additive : Expr → Prop
  | single {item : Item} (only : item.Additive) : Expr.Additive (.single item)
  | snoc {before : Expr} {item : Item} (row : before.Additive) (last : item.Additive) :
      Expr.Additive (.snoc before .add item)

end

/-! ## Two rolls side by side -/

/-- No point is less than the one at its place in the first points. -/
def NoLess (points points' : List Int) : Prop :=
  ∀ (i : Nat) (p p' : Int), points[i]? = some p → points'[i]? = some p' → p ≤ p'

theorem NoLess.drop {points points' : List Int} (h : NoLess points points') (n : Nat) :
    NoLess (points.drop n) (points'.drop n) := by
  intro i p p' hp hp'
  rw [List.getElem?_drop] at hp hp'
  exact h (n + i) p p' hp hp'

/-- Two computations, the second one on points that are no less: each takes so many points, and they come to related
results. -/
def Rises {α β : Type} (n : Nat) (R : α → β → Prop) (x : RollM (List Int) α) (y : RollM (List Int) β) : Prop :=
  ∀ points points' : List Int, n ≤ points.length → n ≤ points'.length → NoLess points points' →
    ∃ a b, x points = (.ok a, points.drop n) ∧ y points' = (.ok b, points'.drop n) ∧ R a b

namespace Rises

variable {α β γ δ : Type} {R : α → β → Prop} {S : γ → δ → Prop} {m n : Nat}

theorem pure {a : α} {b : β} (h : R a b) : Rises 0 R (Pure.pure a) (Pure.pure b) :=
  fun _ _ _ _ _ => ⟨a, b, rfl, rfl, h⟩

/-- One computation after another takes the points of both. -/
theorem bind {x : RollM (List Int) α} {y : RollM (List Int) β} {f : α → RollM (List Int) γ} {g : β → RollM (List Int) δ}
    (hx : Rises m R x y) (hf : ∀ a b, R a b → Rises n S (f a) (g b)) : Rises (m + n) S (x >>= f) (y >>= g) := by
  intro points points' hlen hlen' hle
  obtain ⟨a, b, ha, hb, hab⟩ := hx points points' (by omega) (by omega) hle
  have hrest : n ≤ (points.drop m).length := by
    rw [List.length_drop]
    omega
  have hrest' : n ≤ (points'.drop m).length := by
    rw [List.length_drop]
    omega
  obtain ⟨c, d, hc, hd, hcd⟩ := hf a b hab _ _ hrest hrest' (hle.drop m)
  rw [List.drop_drop] at hc hd
  refine ⟨c, d, ?_, ?_, hcd⟩
  · rw [Attempt.bind_apply, ha]
    exact hc
  · rw [Attempt.bind_apply, hb]
    exact hd

/-- What is made of the results takes no more points. -/
theorem andThen {x : RollM (List Int) α} {y : RollM (List Int) β} (hx : Rises n R x y) {f : α → γ} {g : β → δ}
    (hf : ∀ a b, R a b → S (f a) (g b)) :
    Rises n S (x >>= fun a => Pure.pure (f a)) (y >>= fun b => Pure.pure (g b)) :=
  hx.bind fun a b hab => .pure (hf a b hab)

end Rises

/-! ## Dice terms -/

theorem drawPoint_rises (sides : Int) : Rises 1 (· ≤ ·) (drawPoint sides) (drawPoint sides) := by
  intro points points' hlen hlen' hle
  cases points with
  | nil => exact absurd hlen (Nat.not_succ_le_zero 0)
  | cons p points =>
    cases points' with
    | nil => exact absurd hlen' (Nat.not_succ_le_zero 0)
    | cons p' points' => exact ⟨p, p', rfl, rfl, hle 0 p p' rfl rfl⟩

theorem drawPoints_rises (sides : Int) (n : Nat) :
    Rises n (List.Forall₂ (· ≤ ·)) (drawPoints sides n) (drawPoints sides n) := by
  induction n with
  | zero => exact .pure .nil
  | succ n ih =>
    have both := (drawPoint_rises sides).bind (S := List.Forall₂ (· ≤ ·)) fun p p' hp => ih.andThen fun _ _ => .cons hp
    rw [Nat.add_comm] at both
    exact both

/-- A dice term with a side comes to no less on points that are no less. -/
theorem Dice.rises {d : Dice} (h : 1 ≤ d.sides) :
    Rises d.rolls (fun r r' : DiceRoll => r.value ≤ r'.value) d.roll d.roll := by
  rw [Dice.roll, if_neg (Int.not_lt.2 h)]
  exact (drawPoints_rises _ _).andThen fun _ _ hpoints => d.aggregate.apply_mono hpoints

/-! ## Outcomes -/

/-- In each row every running total is at most the one at its place in the other row. -/
def TotalsLe (rows rows' : List ExprRoll) : Prop :=
  List.Forall₂ (fun row row' => List.Forall₂ (· ≤ ·) row.partials row'.partials) rows rows'

/-- The value of an item's outcome, and the totals in it, are at most those of another. -/
structure ItemRoll.Below (r r' : ItemRoll) : Prop where
  value : r.value ≤ r'.value
  totals : TotalsLe r.rows r'.rows

/-- The value of a row's outcome, and the totals at each level of it, are at most those of another. -/
structure ExprRoll.Below (o o' : ExprRoll) : Prop where
  value : o.value ≤ o'.value
  totals : TotalsLe o.rows o'.rows

section Below

variable {o o' : ExprRoll} {r r' : ItemRoll}

theorem ItemRoll.Below.group (h : o.Below o') : (ItemRoll.group o).Below (.group o') :=
  ⟨h.value, h.totals⟩

theorem ExprRoll.Below.single (h : r.Below r') : (ExprRoll.single r r.value).Below (.single r' r'.value) :=
  ⟨h.value, .cons (.cons h.value .nil) h.totals⟩

/-- One summand more. -/
theorem ExprRoll.Below.snoc (h : o.Below o') (hr : r.Below r') :
    (ExprRoll.snoc o .add r (o.value + r.value)).Below (.snoc o' .add r' (o'.value + r'.value)) := by
  have hvalue : o.value + r.value ≤ o'.value + r'.value := Int.add_le_add h.value hr.value
  obtain ⟨htotals, hinner⟩ := List.forall₂_cons.1 h.totals
  exact ⟨hvalue, .cons (List.rel_append htotals (.cons hvalue .nil)) (List.rel_append hinner hr.totals)⟩

end Below

mutual

theorem Item.rises : ∀ {item : Item}, item.Additive → (∀ d ∈ item.diceTerms, 1 ≤ d.sides) →
    Rises (item.diceTerms.map Dice.rolls).sum ItemRoll.Below item.roll item.roll
  | _, .number n, _ => .pure ⟨Int.le_refl n, .nil⟩
  | _, .dice d, sides => (Dice.rises (sides d (List.mem_singleton_self d))).andThen fun _ _ hvalue => ⟨hvalue, .nil⟩
  | _, .group inner, sides => (Expr.rises inner sides).andThen fun _ _ => .group

/-- Two rolls of an expression that adds, the second one on points that are no less: each takes as many points as the
dice terms roll dice, and no total of the second outcome is less. -/
theorem Expr.rises : ∀ {e : Expr}, e.Additive → (∀ d ∈ e.dice, 1 ≤ d.sides) →
    Rises e.rolls ExprRoll.Below e.roll e.roll
  | _, .single only, sides => (Item.rises only sides).andThen fun _ _ => .single
  | _, .snoc row last, sides => by
    rw [Expr.dice_snoc] at sides
    obtain ⟨hrow, hlast⟩ := List.forall_mem_append.1 sides
    rw [Expr.rolls, Expr.dice_snoc, List.map_append, List.sum_append]
    exact (Expr.rises row hrow).bind fun o o' ho => (Item.rises last hlast).andThen fun _ _ hr => ho.snoc hr

end

/-! ## Verdicts -/

/-- What passes a lower bound still does so when it is no less. -/
theorem Checker.check_of_le {c : Checker} {value value' : Int} (hc : c.compare = .gt ∨ c.compare = .ge)
    (hle : value ≤ value') (h : c.check value = true) : c.check value' = true := by
  obtain ⟨compare, target⟩ := c
  rcases hc with rfl | rfl <;> simp only [Checker.check, Compare.holds, decide_eq_true_eq] at h ⊢ <;> omega

/-- What passes an upper bound still does so when it is no greater. -/
theorem Checker.check_of_ge {c : Checker} {value value' : Int} (hc : c.compare = .lt ∨ c.compare = .le)
    (hle : value ≤ value') (h : c.check value' = true) : c.check value = true := by
  obtain ⟨compare, target⟩ := c
  rcases hc with rfl | rfl <;> simp only [Checker.check, Compare.holds, decide_eq_true_eq] at h ⊢ <;> omega

/-! ## Commands -/

/-- **Better points never hurt an expression that adds.** Let every operator of an expression be an addition, at any
level, and every die have a side, and let there be two rows of points, each of sufficient length, with no point less in
the second one than at its place in the first. Then the expression has an outcome on both, each takes as many points as
there are dice to roll, and

* at every level each running total of the first outcome is at most the one at its place in the second,
* so is the value,
* a verdict on a lower bound that succeeds on the first points succeeds on the second,
* and one on an upper bound that succeeds on the second points succeeds on the first.

A roll succeeds with its outcome, unless the value has too many digits to be reported. -/
theorem rollCommand_monotone {e : Expr} (additive : e.Additive) (sides : ∀ d ∈ e.dice, 1 ≤ d.sides)
    {points points' : List Int} (enough : e.rolls ≤ points.length) (enough' : e.rolls ≤ points'.length)
    (noLess : ∀ (i : Nat) (p p' : Int), points[i]? = some p → points'[i]? = some p' → p ≤ p')
    (checker : Option Checker) (keepDetail : Bool) (language : Language) :
    ∃ o o' : ExprRoll, (o.rolled = e ∧ o'.rolled = e) ∧
      rollCommand e checker keepDetail language points =
        (if Writable o.value then .ok (o.result checker keepDetail language) else .error .unwritable,
          points.drop e.rolls) ∧
      rollCommand e checker keepDetail language points' =
        (if Writable o'.value then .ok (o'.result checker keepDetail language) else .error .unwritable,
          points'.drop e.rolls) ∧
      List.Forall₂ (fun row row' => List.Forall₂ (· ≤ ·) row.partials row'.partials) o.rows o'.rows ∧
      o.value ≤ o'.value ∧
      ∀ c ∈ checker,
        (c.compare = .gt ∨ c.compare = .ge → (o.result checker keepDetail language).success = some true →
          (o'.result checker keepDetail language).success = some true) ∧
        (c.compare = .lt ∨ c.compare = .le → (o'.result checker keepDetail language).success = some true →
          (o.result checker keepDetail language).success = some true) := by
  obtain ⟨o, o', hroll, hroll', below⟩ := Expr.rises additive sides points points' enough enough' noLess
  refine ⟨o, o', ⟨ExprRoll.rolled_eq (Expr.yields_of_roll hroll), ExprRoll.rolled_eq (Expr.yields_of_roll hroll')⟩,
    rollCommand_of_ok hroll, rollCommand_of_ok hroll', below.totals, below.value, ?_⟩
  rintro c ⟨⟩
  refine ⟨fun hc h => ?_, fun hc h => ?_⟩
  · exact congrArg some (c.check_of_le hc below.value (Option.some.inj h))
  · exact congrArg some (c.check_of_ge hc below.value (Option.some.inj h))

/-- A mean below zero in a group, a dice term that rolls nothing, and a point that is left: with a 6 instead of a 5 and a
4 instead of a -3 the command still reaches its target. -/
theorem rollCommand_monotone_nestedMean :
    let e : Expr := .snoc (.snoc (.single (.dice ⟨2, 6, .max⟩)) .add
      (.group (.snoc (.single (.dice ⟨2, 4, .avg⟩)) .add (.dice ⟨-1, 8, .min⟩)))) .add (.number (-2))
    let points : List Int := [1, 5, -3, -4, 0]
    let points' : List Int := [1, 6, 4, -4]
    e.Additive ∧ (∀ d ∈ e.dice, 1 ≤ d.sides) ∧ e.rolls ≤ points.length ∧ e.rolls ≤ points'.length ∧
      (∀ (i : Nat) (p p' : Int), points[i]? = some p → points'[i]? = some p' → p ≤ p') ∧
      ∃ r r', rollCommand e (some ⟨.ge, -1⟩) false .en points = (.ok r, [0]) ∧ r.value = -1 ∧ r.success = some true ∧
        rollCommand e (some ⟨.ge, -1⟩) false .en points' = (.ok r', []) ∧ r'.value = 4 ∧ r'.success = some true := by
  intro e points points'
  have additive : e.Additive := .snoc (.snoc (.single (.dice _)) (.group (.snoc (.single (.dice _)) (.dice _)))) (.number _)
  have sides : ∀ d ∈ e.dice, 1 ≤ d.sides := by decide
  have noLess : ∀ (i : Nat) (p p' : Int), points[i]? = some p → points'[i]? = some p' → p ≤ p'
    | 0, _, _, rfl, rfl | 1, _, _, rfl, rfl | 2, _, _, rfl, rfl | 3, _, _, rfl, rfl => by decide
  obtain ⟨o, o', -, hroll, hroll', -, -, hverdict⟩ :=
    rollCommand_monotone additive sides (by decide) (by decide) noLess (some ⟨.ge, -1⟩) false .en
  have hfirst : rollCommand e (some ⟨.ge, -1⟩) false .en points = (.ok _, [0]) := rfl
  have hsecond : rollCommand e (some ⟨.ge, -1⟩) false .en points' = (.ok _, []) := rfl
  refine ⟨additive, sides, by decide, by decide, noLess, _, _, hfirst, rfl, rfl, hsecond, rfl, ?_⟩
  -- the verdict is carried over from the first roll to the second
  have result : ∀ (o : ExprRoll) (r : RollResult) (left left' : List Int),
      (if Writable o.value then .ok (o.result (some ⟨.ge, -1⟩) false .en) else .error .unwritable, left) =
        ((.ok r, left') : Except RollError RollResult × List Int) → r = o.result (some ⟨.ge, -1⟩) false .en := by
    intro o r left left' h
    split at h
    · cases h
      rfl
    · cases h
  have hr := result o _ _ _ (hroll.symm.trans hfirst)
  have hr' := result o' _ _ _ (hroll'.symm.trans hsecond)
  rw [hr']
  exact (hverdict _ rfl).1 (.inr rfl) (hr ▸ rfl)

/-- A die that shows a one, and the greatest number that can be written: there are enough points and the die has sides,
yet the roll fails. -/
theorem rollCommand_sum_unwritable :
    let e : Expr := .snoc (.single (.dice ⟨1, 6, .sum⟩)) .add (.number greatestWritable)
    e.Additive ∧ (∀ d ∈ e.dice, 1 ≤ d.sides) ∧ e.rolls = 1 ∧
      rollCommand e none false .en ([1] : List Int) = (.error .unwritable, []) := by
  have long := not_writable_succ_greatestWritable
  generalize greatestWritable = n at long ⊢
  refine ⟨.snoc (.single (.dice _)) (.number _), ?_, rfl, ?_⟩
  · intro d hd
    cases List.mem_singleton.1 (show d ∈ [_] from hd)
    decide
  · have hroll : Expr.roll (.snoc (.single (.dice ⟨1, 6, .sum⟩)) .add (.number n)) ([1] : List Int) =
        (.ok (.snoc (.single (.dice ⟨⟨1, 6, .sum⟩, [1], 1⟩) 1) .add (.number n) (1 + n)), []) := rfl
    rw [rollCommand_of_ok hroll, ExprRoll.value, if_neg]
    exact long

end DiceNotation
