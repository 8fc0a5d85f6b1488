import DiceNotation.Dice
import Mathlib.Algebra.Order.BigOperators.Group.List
import Mathlib.Algebra.Order.Ring.Int

/-!
# Aggregates of points

Each aggregate of some points lies where the points do: the greatest and the least are among the points, the mean stays
between the same bounds as the points, and the sum between as many times the bounds. The order of the points does not
matter.

* `Aggregate.max_spec`, `Aggregate.min_spec`, `Aggregate.avg_bounds`, `Aggregate.sum_bounds`: each aggregate on its own.
* `Aggregate.sum_avg`: the mean is the sum divided by the number of points, rounded down.
* `Aggregate.apply_bounds`: points of a die come to no less than zero and no more than all sides together.
* `Aggregate.apply_perm`: points in another order come to the same.
* `Aggregate.apply_mono`: points that are no less, each at its place, come to no less.
-/

namespace DiceNotation.Aggregate

variable {points : List Int} {least most : Int}

theorem sum_apply (points : List Int) : sum.apply points = points.sum := by
  cases points with
  | nil => rfl
  | cons p points => exact List.sum_eq_foldr.symm

/-- The greatest of some points is one of them, and none is greater. -/
theorem max_spec (h : points ≠ []) : max.apply points ∈ points ∧ ∀ p ∈ points, p ≤ max.apply points := by
  obtain ⟨p, points, rfl⟩ := List.exists_cons_of_ne_nil h
  have hmax : (p :: points).max? = some (max.apply (p :: points)) := List.max?_cons'
  exact List.max?_eq_some_iff.1 hmax

/-- The least of some points is one of them, and none is less. -/
theorem min_spec (h : points ≠ []) : min.apply points ∈ points ∧ ∀ p ∈ points, min.apply points ≤ p := by
  obtain ⟨p, points, rfl⟩ := List.exists_cons_of_ne_nil h
  have hmin : (p :: points).min? = some (min.apply (p :: points)) := List.min?_cons'
  exact List.min?_eq_some_iff.1 hmin

/-- The sum of points between two bounds. -/
theorem sum_bounds (h : ∀ p ∈ points, least ≤ p ∧ p ≤ most) :
    points.length * least ≤ sum.apply points ∧ sum.apply points ≤ points.length * most := by
  have hleast := List.card_nsmul_le_sum points least fun p hp => (h p hp).1
  have hmost := List.sum_le_card_nsmul points most fun p hp => (h p hp).2
  rw [nsmul_eq_mul] at hleast hmost
  rw [sum_apply]
  exact ⟨hleast, hmost⟩

/-- The mean of some points is their sum divided by their number, rounded down. -/
theorem avg_apply (h : points ≠ []) : avg.apply points = sum.apply points / points.length := by
  obtain ⟨p, points, rfl⟩ := List.exists_cons_of_ne_nil h
  exact Int.fdiv_eq_ediv_of_nonneg _ (Int.natCast_nonneg _)

/-- As many times the mean as there are points is not above the sum, and the remainder is less than their number. -/
theorem sum_avg (h : points ≠ []) : points.length * avg.apply points ≤ sum.apply points ∧
    sum.apply points < points.length * avg.apply points + points.length := by
  have hlen : (0 : Int) < points.length := Int.natCast_pos.2 (List.length_pos_iff.2 h)
  rw [avg_apply h]
  exact ⟨Int.mul_ediv_self_le (Int.ne_of_gt hlen), Int.lt_mul_ediv_self_add hlen⟩

/-- The mean of points between two bounds is between them. -/
theorem avg_bounds (nonempty : points ≠ []) (h : ∀ p ∈ points, least ≤ p ∧ p ≤ most) :
    least ≤ avg.apply points ∧ avg.apply points ≤ most := by
  have hlen : (0 : Int) < points.length := Int.natCast_pos.2 (List.length_pos_iff.2 nonempty)
  obtain ⟨hleast, hmost⟩ := sum_bounds h
  rw [Int.mul_comm] at hleast hmost
  rw [avg_apply nonempty]
  exact ⟨Int.le_ediv_of_mul_le hlen hleast, Int.ediv_le_of_le_mul hlen hmost⟩

/-- Any other aggregate than the sum is between the same bounds as the points. -/
theorem apply_bounds_of_ne_sum {a : Aggregate} (ha : a ≠ sum) (nonempty : points ≠ [])
    (h : ∀ p ∈ points, least ≤ p ∧ p ≤ most) : least ≤ a.apply points ∧ a.apply points ≤ most := by
  cases a with
  | sum => exact absurd rfl ha
  | avg => exact avg_bounds nonempty h
  | max => exact h _ (max_spec nonempty).1
  | min => exact h _ (min_spec nonempty).1

/-- Points of dice with so many sides come to no less than zero and to no more than all sides together. -/
theorem apply_bounds (a : Aggregate) {sides : Int} (h : ∀ p ∈ points, 1 ≤ p ∧ p ≤ sides) :
    0 ≤ a.apply points ∧ a.apply points ≤ points.length * sides := by
  by_cases hnil : points = []
  · subst hnil
    cases a <;> exact ⟨Int.le_refl _, by simp [apply]⟩
  · have hlen : (1 : Int) ≤ points.length := Int.natCast_pos.2 (List.length_pos_iff.2 hnil)
    by_cases ha : a = sum
    · subst ha
      obtain ⟨hleast, hmost⟩ := sum_bounds h
      exact ⟨by omega, hmost⟩
    · obtain ⟨hleast, hmost⟩ := apply_bounds_of_ne_sum ha hnil h
      have hsides : 1 * sides ≤ points.length * sides := Int.mul_le_mul_of_nonneg_right hlen (by omega)
      exact ⟨by omega, by omega⟩

/-! ## Points in another order -/

/-- Points that stand in another order come to the same, whatever the aggregate. -/
theorem apply_perm (a : Aggregate) {points' : List Int} (h : points.Perm points') : a.apply points = a.apply points' := by
  by_cases hnil : points = []
  · subst hnil
    rw [List.nil_perm.1 h]
  have hnil' : points' ≠ [] := fun h' => hnil (List.perm_nil.1 (h' ▸ h))
  have hsum : sum.apply points = sum.apply points' := by
    rw [sum_apply, sum_apply, h.sum_eq]
  cases a with
  | sum => exact hsum
  | avg => rw [avg_apply hnil, avg_apply hnil', hsum, h.length_eq]
  | max =>
    -- each of the two is among the points of the other
    obtain ⟨hmem, hmax⟩ := max_spec hnil
    obtain ⟨hmem', hmax'⟩ := max_spec hnil'
    exact Int.le_antisymm (hmax' _ (h.mem_iff.1 hmem)) (hmax _ (h.mem_iff.2 hmem'))
  | min =>
    obtain ⟨hmem, hmin⟩ := min_spec hnil
    obtain ⟨hmem', hmin'⟩ := min_spec hnil'
    exact Int.le_antisymm (hmin _ (h.mem_iff.2 hmem')) (hmin' _ (h.mem_iff.1 hmem))

/-! ## Points that are no less -/

/-- What a list holds is related to something that a related list holds. -/
theorem exists_of_mem_forall₂ {α β : Type} {R : α → β → Prop} {xs : List α} {ys : List β} (h : List.Forall₂ R xs ys) :
    ∀ x ∈ xs, ∃ y ∈ ys, R x y := by
  induction h with
  | nil => nofun
  | cons head _ ih =>
    intro x hx
    rcases List.mem_cons.1 hx with rfl | hx
    · exact ⟨_, List.mem_cons_self, head⟩
    · obtain ⟨y, hy, hR⟩ := ih x hx
      exact ⟨y, List.mem_cons_of_mem _ hy, hR⟩

/-- Points that are no less, each at its place, come to no less, whatever the aggregate. -/
theorem apply_mono (a : Aggregate) {points' : List Int} (h : List.Forall₂ (· ≤ ·) points points') :
    a.apply points ≤ a.apply points' := by
  by_cases hnil : points = []
  · subst hnil
    rw [List.forall₂_nil_left_iff.1 h]
  have hnil' : points' ≠ [] := fun h' => hnil (List.forall₂_nil_right_iff.1 (h' ▸ h))
  have hsum : sum.apply points ≤ sum.apply points' := by
    rw [sum_apply, sum_apply]
    exact h.sum_le_sum
  cases a with
  | sum => exact hsum
  | avg =>
    rw [avg_apply hnil, avg_apply hnil', ← h.length_eq]
    exact Int.ediv_le_ediv (Int.natCast_pos.2 (List.length_pos_iff.2 hnil)) hsum
  | max =>
    -- the point that stands where the greatest one stood is no less
    obtain ⟨q, hq, hle⟩ := exists_of_mem_forall₂ h _ (max_spec hnil).1
    exact Int.le_trans hle ((max_spec hnil').2 q hq)
  | min =>
    obtain ⟨p, hp, hle⟩ := exists_of_mem_forall₂ h.flip _ (min_spec hnil').1
    exact Int.le_trans ((min_spec hnil).2 p hp) hle

end DiceNotation.Aggregate
