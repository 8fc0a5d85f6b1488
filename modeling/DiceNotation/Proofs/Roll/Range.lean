import DiceNotation.Proofs.Roll.Aggregate
import DiceNotation.Proofs.Roll.Outcome
import DiceNotation.Source.Twister

/-!
# Dice that show their sides

A source answers a die if it gives a point of it that is one of its sides. A dice term that is rolled on such a source
has a value, and the value is among the sides, or for a sum between the number of dice and all their sides together.

* `Answers`: a source gives so many points of a die, each of them one of its sides.
* `answers_twister`: a seeded generator always does.
* `drawPoints_of_answers`: what is drawn from such a source.
* `Aggregate.value_bounds`: the aggregates of points that are sides of their die.
* `aggregates_and_range`: the aggregates of any points, and the value of a dice term.
-/

namespace DiceNotation

/-! ## Sources that answer -/

section

variable {σ : Type} [Source σ]

/-- The source gives so many points of a die, each of them one of its sides. -/
def Answers (sides : Int) : Nat → σ → Prop
  | 0, _ => True
  | n + 1, source => ∃ point after, Source.draw sides source = some (point, after) ∧ (1 ≤ point ∧ point ≤ sides) ∧
      Answers sides n after

/-- From a source that answers so many times, so many points are drawn. -/
theorem drawPoints_of_answers {sides : Int} {n : Nat} {source : σ} (h : Answers sides n source) :
    ∃ points after, drawPoints sides n source = (.ok points, after) ∧ points.length = n ∧
      ∀ p ∈ points, 1 ≤ p ∧ p ≤ sides := by
  induction n generalizing source with
  | zero => exact ⟨[], source, rfl, rfl, nofun⟩
  | succ n ih =>
    obtain ⟨point, mid, hdraw, hpoint, hrest⟩ := h
    obtain ⟨points, after, hpoints, hlen, hrange⟩ := ih hrest
    have hfirst : drawPoint sides source = (.ok point, mid) := by simp only [drawPoint, hdraw]
    refine ⟨point :: points, after, ?_, congrArg (· + 1) hlen, List.forall_mem_cons.2 ⟨hpoint, hrange⟩⟩
    simp only [drawPoints, Attempt.bind_apply, hfirst, hpoints, Attempt.pure_apply]

end

/-- By rejection, and at last by reduction, the generator keeps below the bound. -/
theorem Twister.below_lt {n : Nat} (hn : 0 < n) : ∀ (fuel : Nat) (t : Twister), (below n fuel t).1 < n
  | 0, t => Nat.mod_lt _ hn
  | fuel + 1, t => by
    rw [below]
    dsimp only
    split
    · rename_i hlt
      exact hlt
    · exact below_lt hn fuel _

/-- A seeded generator answers any die with a side, as often as it is asked. -/
theorem answers_twister {sides : Int} (hsides : 1 ≤ sides) : ∀ (n : Nat) (t : Twister), Answers sides n t
  | 0, _ => trivial
  | n + 1, t => by
    have hlt := Twister.below_lt (show 0 < sides.toNat by omega) 1000 t
    rcases hbelow : Twister.below sides.toNat 1000 t with ⟨r, after⟩
    rw [hbelow] at hlt
    have hdraw : Source.draw sides t = some (1 + (r : Int), after) := by simp only [Source.draw, hbelow]
    exact ⟨1 + r, after, hdraw, by omega, answers_twister hsides n after⟩

/-! ## Values -/

/-- Points that are sides of their die come to a side of it, and their sum is between their number and all sides
together. -/
theorem Aggregate.value_bounds (a : Aggregate) {points : List Int} {sides : Int} (nonempty : points ≠ [])
    (range : ∀ p ∈ points, 1 ≤ p ∧ p ≤ sides) :
    (a = .sum → points.length ≤ a.apply points ∧ a.apply points ≤ points.length * sides) ∧
      (a ≠ .sum → 1 ≤ a.apply points ∧ a.apply points ≤ sides) := by
  refine ⟨?_, fun ha => apply_bounds_of_ne_sum ha nonempty range⟩
  rintro rfl
  obtain ⟨hleast, hmost⟩ := sum_bounds range
  exact ⟨by omega, hmost⟩

/-- A dice term with a die and a side has a value on a source that answers. -/
theorem Dice.roll_of_answers {σ : Type} [Source σ] {d : Dice} {source : σ} (count : 1 ≤ d.count) (sides : 1 ≤ d.sides)
    (answers : Answers d.sides d.rolls source) :
    ∃ r after, d.roll source = (.ok r, after) ∧
      (d.aggregate = .sum → d.count ≤ r.value ∧ r.value ≤ d.count * d.sides) ∧
      (d.aggregate ≠ .sum → 1 ≤ r.value ∧ r.value ≤ d.sides) := by
  obtain ⟨points, after, hpoints, hlen, hrange⟩ := drawPoints_of_answers answers
  have hcount : (points.length : Int) = d.count := by
    rw [hlen]
    exact Int.toNat_of_nonneg (by omega)
  have nonempty : points ≠ [] := by
    rintro rfl
    have hzero : (0 : Int) = d.count := hcount
    omega
  refine ⟨⟨d, points, d.aggregate.apply points⟩, after, ?_, ?_⟩
  · rw [Dice.roll, if_neg (Int.not_lt.2 sides), Attempt.bind_apply, hpoints]
    rfl
  · rw [← hcount]
    exact d.aggregate.value_bounds nonempty hrange

open Aggregate in
/-- **The aggregates are the extrema, the sum and the mean rounded down.** Of one point or more, of whatever sign,

* the greatest and the least are among the points, and no point is greater or less,
* the mean is between them,
* the sum is the sum, and the mean is the greatest number that, as many times as there are points, is not above it,
* and none of this depends on the order of the points.

So a dice term with a die and a side has a value on every source that answers its dice with one of their sides. The value
is one of the sides, or if it is the sum, it is between the number of dice and as many times the sides. -/
theorem aggregates_and_range :
    (∀ points : List Int, points ≠ [] →
      (max.apply points ∈ points ∧ ∀ p ∈ points, p ≤ max.apply points) ∧
      (min.apply points ∈ points ∧ ∀ p ∈ points, min.apply points ≤ p) ∧
      (min.apply points ≤ avg.apply points ∧ avg.apply points ≤ max.apply points) ∧
      sum.apply points = points.sum ∧
      (points.length * avg.apply points ≤ sum.apply points ∧
        sum.apply points < points.length * avg.apply points + points.length) ∧
      ∀ (a : Aggregate) (points' : List Int), points.Perm points' → a.apply points' = a.apply points) ∧
    ∀ (d : Dice) (σ : Type) [Source σ] (source : σ), 1 ≤ d.count → 1 ≤ d.sides → Answers d.sides d.rolls source →
      ∃ r after, d.roll source = (.ok r, after) ∧
        (d.aggregate = .sum → d.count ≤ r.value ∧ r.value ≤ d.count * d.sides) ∧
        (d.aggregate ≠ .sum → 1 ≤ r.value ∧ r.value ≤ d.sides) := by
  refine ⟨fun points nonempty => ?_, fun d σ _ source count sides answers => Dice.roll_of_answers count sides answers⟩
  have hmax := max_spec nonempty
  have hmin := min_spec nonempty
  have hmean := avg_bounds nonempty fun p hp => ⟨hmin.2 p hp, hmax.2 p hp⟩
  exact ⟨hmax, hmin, hmean, sum_apply points, sum_avg nonempty, fun a points' perm => (a.apply_perm perm).symm⟩

/-- The mean of points below zero is rounded down, not towards zero, in whatever order they stand; and three dice from
a seeded generator show a mean among their sides. -/
theorem aggregates_and_range_belowZero :
    let points : List Int := [-7, 2, -2]
    points ≠ [] ∧ points.Perm [2, -7, -2] ∧ Aggregate.avg.apply points = -3 ∧
      Aggregate.avg.apply [2, -7, -2] = Aggregate.avg.apply points ∧
      3 * Aggregate.avg.apply points ≤ Aggregate.sum.apply points ∧
      Answers 6 3 (Twister.ofSeed 42) ∧
      ∃ r after, Dice.roll ⟨3, 6, .avg⟩ (Twister.ofSeed 42) = (.ok r, after) ∧ 1 ≤ r.value ∧ r.value ≤ 6 := by
  intro points
  obtain ⟨aggregates, range⟩ := aggregates_and_range
  have nonempty : points ≠ [] := List.cons_ne_nil _ _
  have perm : points.Perm [2, -7, -2] := .swap _ _ _
  obtain ⟨-, -, -, -, ⟨hsum, -⟩, hperm⟩ := aggregates points nonempty
  have answers : Answers 6 3 (Twister.ofSeed 42) := answers_twister (by decide) 3 _
  obtain ⟨r, after, hroll, -, hside⟩ := range ⟨3, 6, .avg⟩ Twister _ (by decide) (by decide) answers
  exact ⟨nonempty, perm, rfl, hperm .avg _ perm, hsum, answers, r, after, hroll, hside nofun⟩

end DiceNotation
