import DiceNotation.Checker
import DiceNotation.Expr
import DiceNotation.Reading.Error
import Mathlib.Algebra.Ring.Nat

/-!
# The first bound that a command exceeds

A finished command is walked in source order, and what is met on the way is held against the bounds: the groups open at
each parenthesis, the items and the rolled dice so far at each dice term, and so on.

* `Expr.visits`, `visits`: what the walk meets.
* `firstExcess`: the first bound that is exceeded on the way, with the running counts.
* `Within`: no bound is exceeded, said of the tree and without a walk.
* `firstExcess_eq_none_iff`: nothing is exceeded on the way just when the tree is within the bounds.
-/

namespace DiceNotation

/-! ## The walk -/

/-- What a walk over a command meets. -/
inductive Visit where
  /-- An opening parenthesis, and how many groups are open behind it. -/
  | opening (depth : Nat)
  | dice (d : Dice)
  | number (n : Int)
  /-- The target of the checker. -/
  | target (n : Int)
  deriving DecidableEq, Repr

mutual

/-- What a walk over an item meets, inside some open groups. -/
def Item.visits (depth : Nat) : Item → List Visit
  | .number n => [.number n]
  | .dice d => [.dice d]
  | .group e => .opening (depth + 1) :: e.visits (depth + 1)
  | .unknown _ => []

/-- What a walk over an expression meets, inside some open groups. -/
def Expr.visits (depth : Nat) : Expr → List Visit
  | .single item => item.visits depth
  | .snoc before _ item => before.visits depth ++ item.visits depth

end

/-- What a walk over a command meets: its expression, and last the target. -/
def visits (e : Expr) (checker : Option Checker) : List Visit :=
  e.visits 0 ++ (checker.map fun c => Visit.target c.target).toList

theorem visits_none (e : Expr) : visits e none = e.visits 0 :=
  List.append_nil _

/-! ## Running counts -/

/-- The numbers and dice terms met so far, and the dice that these roll. -/
structure Tally where
  items : Nat := 0
  rolls : Nat := 0
  deriving DecidableEq, Repr

namespace Tally

/-- The counts with one visit more. -/
def after (k : Tally) : Visit → Tally
  | .dice d => ⟨k.items + 1, k.rolls + d.rolls⟩
  | .number _ => ⟨k.items + 1, k.rolls⟩
  | .opening _ | .target _ => k

/-- The counts with some visits more. -/
def afterAll (k : Tally) (vs : List Visit) : Tally :=
  vs.foldl after k

@[simp] theorem afterAll_nil (k : Tally) : k.afterAll [] = k := rfl

@[simp] theorem afterAll_cons (k : Tally) (v : Visit) (vs : List Visit) :
    k.afterAll (v :: vs) = (k.after v).afterAll vs := rfl

theorem afterAll_append (k : Tally) (us vs : List Visit) : k.afterAll (us ++ vs) = (k.afterAll us).afterAll vs :=
  List.foldl_append

end Tally

/-- The bound that a visit exceeds, by the counts that include it. At a dice term the item count is looked at first,
then the sides, then the rolled dice. -/
def Visit.excess (L : Limits) (k : Tally) : Visit → Option LimitError
  | .opening depth => if L.depth < depth then some (.depth L.depth) else none
  | .dice d =>
    if L.itemCount < k.items then some (.itemCount L.itemCount)
    else if L.sides < d.sides then some (.sides d.sides L.sides)
    else if L.rolls < k.rolls then some (.rolls k.rolls L.rolls)
    else none
  | .number n =>
    if L.itemCount < k.items then some (.itemCount L.itemCount)
    else if L.number < n.natAbs then some (.number n L.number)
    else none
  | .target n => if L.number < n.natAbs then some (.number n L.number) else none

/-- The first bound that some visits exceed, by the counts before them. -/
def firstExcess (L : Limits) : Tally → List Visit → Option LimitError
  | _, [] => none
  | k, v :: vs => (v.excess L (k.after v)).or (firstExcess L (k.after v) vs)

namespace Visit

variable {L : Limits} {k : Tally} {d : Dice} {n : Int}

theorem excess_opening {depth : Nat} (h : L.depth < depth) : (opening depth).excess L k = some (.depth L.depth) :=
  if_pos h

theorem excess_opening_eq_none {depth : Nat} (h : depth ≤ L.depth) : (opening depth).excess L k = none :=
  if_neg (Nat.not_lt.2 h)

theorem excess_dice_items (h : L.itemCount < k.items) : (dice d).excess L k = some (.itemCount L.itemCount) :=
  if_pos h

theorem excess_dice_sides (hi : k.items ≤ L.itemCount) (h : L.sides < d.sides) :
    (dice d).excess L k = some (.sides d.sides L.sides) :=
  (if_neg (Nat.not_lt.2 hi)).trans (if_pos h)

theorem excess_dice_rolls (hi : k.items ≤ L.itemCount) (hs : d.sides ≤ L.sides) (h : L.rolls < k.rolls) :
    (dice d).excess L k = some (.rolls k.rolls L.rolls) :=
  (if_neg (Nat.not_lt.2 hi)).trans ((if_neg (Int.not_lt.2 hs)).trans (if_pos h))

theorem excess_number_items (h : L.itemCount < k.items) : (number n).excess L k = some (.itemCount L.itemCount) :=
  if_pos h

theorem excess_number_value (hi : k.items ≤ L.itemCount) (h : L.number < n.natAbs) :
    (number n).excess L k = some (.number n L.number) :=
  (if_neg (Nat.not_lt.2 hi)).trans (if_pos h)

theorem excess_target (h : L.number < n.natAbs) : (target n).excess L k = some (.number n L.number) :=
  if_pos h

theorem excess_target_eq_none (h : n.natAbs ≤ L.number) : (target n).excess L k = none :=
  if_neg (Nat.not_lt.2 h)

end Visit

theorem firstExcess_singleton (L : Limits) (k : Tally) (v : Visit) :
    firstExcess L k [v] = v.excess L (k.after v) := by
  simp [firstExcess]

theorem firstExcess_append (L : Limits) (k : Tally) (us vs : List Visit) :
    firstExcess L k (us ++ vs) = (firstExcess L k us).or (firstExcess L (k.afterAll us) vs) := by
  induction us generalizing k with
  | nil => rfl
  | cons u us ih => rw [List.cons_append, firstExcess, ih, firstExcess, Option.or_assoc, Tally.afterAll_cons]

/-! ## Measures of a tree -/

/-- The number of an item that is a number. -/
def Item.number? : Item → Option Int
  | .number n => some n
  | _ => none

mutual

/-- How deep the groups of an item are nested. -/
def Item.nesting : Item → Nat
  | .group e => e.nesting + 1
  | _ => 0

/-- How deep the groups of an expression are nested. -/
def Expr.nesting : Expr → Nat
  | .single item => item.nesting
  | .snoc before _ item => max before.nesting item.nesting

end

namespace Expr

/-- The number items, those in groups included, in source order. -/
def numbers (e : Expr) : List Int :=
  e.leaves.filterMap Item.number?

/-- How many dice are rolled by all dice terms together. -/
def rolls (e : Expr) : Nat :=
  (e.dice.map Dice.rolls).sum

end Expr

/-- A command that keeps to the bounds. -/
structure Within (L : Limits) (e : Expr) (checker : Option Checker) : Prop where
  items : e.itemCount ≤ L.itemCount
  sides : ∀ d ∈ e.dice, d.sides ≤ L.sides
  rolls : e.rolls ≤ L.rolls
  numbers : ∀ n ∈ e.numbers, n.natAbs ≤ L.number
  target : ∀ c ∈ checker, c.target.natAbs ≤ L.number
  depth : e.nesting ≤ L.depth

/-! ## Nothing is exceeded -/

section Within

variable {L : Limits}

/-- A visit that exceeds no bound on its own, the counts aside. -/
def Visit.Fits (L : Limits) : Visit → Prop
  | .opening depth => depth ≤ L.depth
  | .dice d => d.sides ≤ L.sides
  | .number n | .target n => n.natAbs ≤ L.number

/-- Counts within the bounds. -/
def Tally.Fits (L : Limits) (k : Tally) : Prop :=
  k.items ≤ L.itemCount ∧ k.rolls ≤ L.rolls

/-- Counts never fall. -/
theorem Tally.fits_of_after {k : Tally} {v : Visit} (h : (k.after v).Fits L) : k.Fits L := by
  obtain ⟨hi, hr⟩ := h
  cases v <;> simp only [Tally.after] at hi hr <;> exact ⟨by omega, by omega⟩

theorem Tally.fits_of_afterAll {vs : List Visit} {k : Tally} (h : (k.afterAll vs).Fits L) : k.Fits L := by
  induction vs generalizing k with
  | nil => exact h
  | cons v vs ih => exact fits_of_after (ih h)

theorem Visit.excess_dice_eq_none_iff {k : Tally} {d : Dice} :
    (Visit.dice d).excess L k = none ↔ k.items ≤ L.itemCount ∧ d.sides ≤ L.sides ∧ k.rolls ≤ L.rolls := by
  simp only [excess]
  split
  · exact iff_of_false nofun (by omega)
  split
  · exact iff_of_false nofun (by omega)
  split
  · exact iff_of_false nofun (by omega)
  · exact iff_of_true rfl (by omega)

theorem Visit.excess_number_eq_none_iff {k : Tally} {n : Int} :
    (Visit.number n).excess L k = none ↔ k.items ≤ L.itemCount ∧ n.natAbs ≤ L.number := by
  simp only [excess]
  split
  · exact iff_of_false nofun (by omega)
  split
  · exact iff_of_false nofun (by omega)
  · exact iff_of_true rfl (by omega)

/-- Behind counts within the bounds, a visit exceeds none just when it fits and the counts with it do. -/
theorem Visit.excess_eq_none_iff {k : Tally} (hk : k.Fits L) (v : Visit) :
    v.excess L (k.after v) = none ↔ v.Fits L ∧ (k.after v).Fits L := by
  obtain ⟨hi, hr⟩ := hk
  cases v with
  | opening depth => simp [excess, Fits, Tally.after, Tally.Fits, hi, hr]
  | dice d => rw [excess_dice_eq_none_iff, Fits, Tally.Fits, and_left_comm]
  | number n =>
    rw [excess_number_eq_none_iff, Fits, Tally.Fits]
    exact ⟨fun ⟨h₁, h₂⟩ => ⟨h₂, h₁, hr⟩, fun ⟨h₂, h₁, _⟩ => ⟨h₁, h₂⟩⟩
  | target n => simp [excess, Fits, Tally.after, Tally.Fits, hi, hr]

/-- Nothing is exceeded on the way just when every visit fits and the counts at the end do. -/
theorem firstExcess_eq_none_iff_fits {vs : List Visit} {k : Tally} (hk : k.Fits L) :
    firstExcess L k vs = none ↔ (∀ v ∈ vs, v.Fits L) ∧ (k.afterAll vs).Fits L := by
  induction vs generalizing k with
  | nil => simp [firstExcess, hk]
  | cons v vs ih =>
    rw [firstExcess, Option.or_eq_none_iff, Visit.excess_eq_none_iff hk, List.forall_mem_cons, Tally.afterAll_cons]
    constructor
    · rintro ⟨⟨hv, hk'⟩, hrest⟩
      obtain ⟨hvs, hend⟩ := (ih hk').1 hrest
      exact ⟨⟨hv, hvs⟩, hend⟩
    · rintro ⟨⟨hv, hvs⟩, hend⟩
      have hk' : (k.after v).Fits L := Tally.fits_of_afterAll hend
      exact ⟨⟨hv, hk'⟩, (ih hk').2 ⟨hvs, hend⟩⟩

/-! ### The counts of a tree -/

mutual

theorem Item.afterAll_visits (k : Tally) (depth : Nat) : ∀ item : Item,
    k.afterAll (item.visits depth) = ⟨k.items + item.leaves.countP Item.isTerm,
      k.rolls + ((item.leaves.filterMap Item.dice?).map Dice.rolls).sum⟩
  | .number _ => rfl
  | .dice _ => rfl
  | .group e => by
    rw [Item.visits, Item.leaves, Tally.afterAll_cons]
    exact Expr.afterAll_visits k (depth + 1) e
  | .unknown _ => rfl

/-- A walk over an expression counts its items and its rolled dice. -/
theorem Expr.afterAll_visits (k : Tally) (depth : Nat) : ∀ e : Expr,
    k.afterAll (e.visits depth) = ⟨k.items + e.itemCount, k.rolls + e.rolls⟩
  | .single item => Item.afterAll_visits k depth item
  | .snoc before op item => by
    rw [Expr.visits, Tally.afterAll_append, Expr.afterAll_visits k depth before, Item.afterAll_visits _ depth item]
    simp only [Expr.itemCount, Expr.rolls, Expr.dice, Expr.leaves, List.countP_append, List.filterMap_append,
      List.map_append, List.sum_append, Nat.add_assoc]

end

mutual

theorem Item.fits_visits_iff {depth : Nat} (hd : depth ≤ L.depth) : ∀ item : Item,
    (∀ v ∈ item.visits depth, v.Fits L) ↔ (∀ d ∈ item.leaves.filterMap Item.dice?, d.sides ≤ L.sides) ∧
      (∀ n ∈ item.leaves.filterMap Item.number?, n.natAbs ≤ L.number) ∧ depth + item.nesting ≤ L.depth
  | .number _ => by
    simp [Item.visits, Item.leaves, Item.nesting, List.filterMap_cons, Item.dice?, Item.number?, Visit.Fits, hd]
  | .dice _ => by
    simp [Item.visits, Item.leaves, Item.nesting, List.filterMap_cons, Item.dice?, Item.number?, Visit.Fits, hd]
  | .group e => by
    rw [Item.visits, Item.leaves, Item.nesting, List.forall_mem_cons]
    constructor
    · rintro ⟨hopen, hinner⟩
      obtain ⟨hs, hn, hdepth⟩ := (Expr.fits_visits_iff hopen e).1 hinner
      exact ⟨hs, hn, by omega⟩
    · rintro ⟨hs, hn, hdepth⟩
      have hopen : depth + 1 ≤ L.depth := by omega
      exact ⟨hopen, (Expr.fits_visits_iff hopen e).2 ⟨hs, hn, by omega⟩⟩
  | .unknown _ => by simp [Item.visits, Item.leaves, Item.nesting, List.filterMap_cons, Item.dice?, Item.number?, hd]

/-- The visits of an expression fit just when its sides, its numbers and its nesting do. -/
theorem Expr.fits_visits_iff {depth : Nat} (hd : depth ≤ L.depth) : ∀ e : Expr,
    (∀ v ∈ e.visits depth, v.Fits L) ↔ (∀ d ∈ e.dice, d.sides ≤ L.sides) ∧
      (∀ n ∈ e.numbers, n.natAbs ≤ L.number) ∧ depth + e.nesting ≤ L.depth
  | .single item => Item.fits_visits_iff hd item
  | .snoc before op item => by
    have hb := Expr.fits_visits_iff hd before
    have hi := Item.fits_visits_iff hd item
    simp only [Expr.visits, Expr.dice, Expr.numbers, Expr.leaves, Expr.nesting, List.filterMap_append,
      List.forall_mem_append] at hb ⊢
    rw [hb, hi]
    constructor
    · rintro ⟨⟨hs, hn, hd⟩, hs', hn', hd'⟩
      exact ⟨⟨hs, hs'⟩, ⟨hn, hn'⟩, by omega⟩
    · rintro ⟨⟨hs, hs'⟩, ⟨hn, hn'⟩, hd⟩
      exact ⟨⟨hs, hn, by omega⟩, hs', hn', by omega⟩

end

/-- A walk over a whole command counts its items and its rolled dice. -/
theorem afterAll_visits (e : Expr) (checker : Option Checker) :
    Tally.afterAll {} (visits e checker) = ⟨e.itemCount, e.rolls⟩ := by
  rw [visits, Tally.afterAll_append, Expr.afterAll_visits]
  cases checker <;> simp [Tally.after]

/-- A walk over a command exceeds no bound just when the command is within the bounds. -/
theorem firstExcess_eq_none_iff {e : Expr} {checker : Option Checker} :
    firstExcess L {} (visits e checker) = none ↔ Within L e checker := by
  have hk : Tally.Fits L {} := ⟨Nat.zero_le _, Nat.zero_le _⟩
  have htarget : (∀ v ∈ (checker.map fun c => Visit.target c.target).toList, v.Fits L) ↔
      ∀ c ∈ checker, c.target.natAbs ≤ L.number := by
    cases checker <;> simp [Visit.Fits]
  rw [firstExcess_eq_none_iff_fits hk, afterAll_visits, visits, List.forall_mem_append,
    Expr.fits_visits_iff (Nat.zero_le _), htarget]
  constructor
  · rintro ⟨⟨⟨hs, hn, hd⟩, ht⟩, hi, hr⟩
    exact ⟨hi, hs, hr, hn, ht, by omega⟩
  · rintro ⟨hi, hs, hr, hn, ht, hd⟩
    exact ⟨⟨⟨hs, hn, by omega⟩, ht⟩, hi, hr⟩

end Within

end DiceNotation
