import DiceNotation.Proofs.Reading.Acceptance
import DiceNotation.Proofs.Roll.Aggregate
import DiceNotation.Proofs.Roll.Consistency
import Mathlib.Algebra.Order.Group.Nat

/-!
# How great a value can be

The bounds under which a command is read bound every value that a roll of it can show, as long as each die shows one of
its sides: a value made from `n` numbers and dice terms is at most the `n`-th power of a base that the bounds give.

* `Limits.base`: the base.
* `Operator.natAbs_apply_le`: one operator, by the powers of its operands.
* `ExprRoll.Bounded`: the items, the running totals and the value of a row, each by its number of terms.
* `rollCommand_bounded`: the values in every outcome of a command that is read.
-/

namespace DiceNotation

/-! ## Operators -/

theorem two_le_pow {B m : Nat} (hB : 2 ≤ B) (hm : 1 ≤ m) : 2 ≤ B ^ m :=
  Nat.le_trans hB (Nat.le_self_pow (by omega) B)

/-- Whatever the operator, the exponents of its operands are added. -/
theorem Operator.natAbs_apply_le (op : Operator) {B m n : Nat} {a b : Int} (hB : 2 ≤ B) (hm : 1 ≤ m) (hn : 1 ≤ n)
    (ha : a.natAbs ≤ B ^ m) (hb : b.natAbs ≤ B ^ n) : (op.apply a b).natAbs ≤ B ^ (m + n) := by
  have hsum : B ^ m + B ^ n ≤ B ^ (m + n) := by
    rw [Nat.pow_add]
    exact Nat.add_le_mul (two_le_pow hB hm) (two_le_pow hB hn)
  cases op with
  | add =>
    calc (a + b).natAbs ≤ a.natAbs + b.natAbs := Int.natAbs_add_le a b
      _ ≤ B ^ m + B ^ n := Nat.add_le_add ha hb
      _ ≤ B ^ (m + n) := hsum
  | sub =>
    calc (a - b).natAbs ≤ a.natAbs + b.natAbs := Int.natAbs_sub_le a b
      _ ≤ B ^ m + B ^ n := Nat.add_le_add ha hb
      _ ≤ B ^ (m + n) := hsum
  | mul =>
    calc (a * b).natAbs = a.natAbs * b.natAbs := Int.natAbs_mul a b
      _ ≤ B ^ m * B ^ n := Nat.mul_le_mul ha hb
      _ = B ^ (m + n) := (Nat.pow_add B m n).symm

/-! ## Terms -/

mutual

/-- The outcomes in an item's outcome that are no groups. -/
def ItemRoll.leaves : ItemRoll → List ItemRoll
  | .group e => e.leaves
  | item => [item]

/-- The outcomes in a row's outcome that are no groups, in source order. -/
def ExprRoll.leaves : ExprRoll → List ItemRoll
  | .single item _ => item.leaves
  | .snoc before _ item _ => before.leaves ++ item.leaves

end

/-- How many numbers and dice terms an item's value was made from. -/
def ItemRoll.terms (r : ItemRoll) : Nat :=
  r.leaves.length

/-- How many numbers and dice terms a row's value was made from. -/
def ExprRoll.terms (o : ExprRoll) : Nat :=
  o.leaves.length

section Terms

theorem ExprRoll.terms_snoc (o : ExprRoll) (op : Operator) (r : ItemRoll) (total : Int) :
    (snoc o op r total).terms = o.terms + r.terms :=
  List.length_append

mutual

theorem ItemRoll.one_le_terms : ∀ r : ItemRoll, 1 ≤ r.terms
  | .number _ | .dice _ | .unknown _ => Nat.le_refl 1
  | .group e => ExprRoll.one_le_terms e

theorem ExprRoll.one_le_terms : ∀ o : ExprRoll, 1 ≤ o.terms
  | .single item _ => ItemRoll.one_le_terms item
  | .snoc before op item total => by
    rw [ExprRoll.terms_snoc]
    exact Nat.le_add_right_of_le (ExprRoll.one_le_terms before)

end

/-- A row is made from what its items are made from. -/
theorem ExprRoll.sum_terms_items : ∀ o : ExprRoll, (o.items.map ItemRoll.terms).sum = o.terms
  | .single item total => Nat.add_zero _
  | .snoc before op item total => by
    rw [items_snoc, List.map_append, List.sum_append, sum_terms_items before, terms_snoc]
    rfl

mutual

theorem ItemRoll.terms_eq : ∀ {item : Item} {r : ItemRoll}, item.Yields r → r.terms = item.leaves.countP Item.isTerm
  | _, _, .number _ => rfl
  | _, _, .dice _ _ => rfl
  | _, _, .group inner => ExprRoll.terms_eq inner

/-- An outcome has as many terms as the expression has items that are no groups. -/
theorem ExprRoll.terms_eq : ∀ {e : Expr} {o : ExprRoll}, e.Yields o → o.terms = e.itemCount
  | _, _, .single only => ItemRoll.terms_eq only
  | _, _, .snoc op row last => by
    rw [ExprRoll.terms_snoc, ExprRoll.terms_eq row, ItemRoll.terms_eq last, Expr.itemCount, Expr.itemCount, Expr.leaves,
      List.countP_append]

end

mutual

theorem ItemRoll.leaves_subset : ∀ (r : ItemRoll), ∀ row ∈ r.rows, row.leaves ⊆ r.leaves
  | .number _ | .dice _ | .unknown _ => nofun
  | .group e => List.forall_mem_cons.2 ⟨List.Subset.refl _, ExprRoll.leaves_subset_of_mem_inner e⟩

theorem ExprRoll.leaves_subset_of_mem_inner : ∀ (o : ExprRoll), ∀ row ∈ o.inner, row.leaves ⊆ o.leaves
  | .single item _ => ItemRoll.leaves_subset item
  | .snoc before _ item _ => by
    intro row hrow
    rcases List.mem_append.1 hrow with h | h
    · exact List.subset_append_of_subset_left _ (ExprRoll.leaves_subset_of_mem_inner before row h)
    · exact List.subset_append_of_subset_right _ (ItemRoll.leaves_subset item row h)

end

/-- The terms of a row in an outcome are among the terms of the outcome. -/
theorem ExprRoll.leaves_subset (o : ExprRoll) : ∀ row ∈ o.rows, row.leaves ⊆ o.leaves :=
  List.forall_mem_cons.2 ⟨List.Subset.refl _, leaves_subset_of_mem_inner o⟩

end Terms

/-! ## Rows -/

/-- The values in a row, each bounded by the power of a base with the number of its terms. -/
structure ExprRoll.Bounded (B : Nat) (o : ExprRoll) : Prop where
  /-- A group is an item, and its value is made from the terms in it. -/
  items : ∀ item ∈ o.items, item.value.natAbs ≤ B ^ item.terms
  /-- A running total is made from the terms of the items up to it. -/
  partials : ∀ (i : Nat) (total : Int), o.partials[i]? = some total →
    total.natAbs ≤ B ^ ((o.items.take (i + 1)).map ItemRoll.terms).sum
  value : o.value.natAbs ≤ B ^ o.terms

section Bounded

variable {B : Nat} {o : ExprRoll} {r : ItemRoll}

theorem ExprRoll.Bounded.single (h : r.value.natAbs ≤ B ^ r.terms) : (ExprRoll.single r r.value).Bounded B := by
  refine ⟨?_, ?_, h⟩
  · intro item hitem
    cases List.mem_singleton.1 hitem
    exact h
  · intro i total htotal
    cases i with
    | zero =>
      cases htotal
      exact h
    | succ i => cases htotal

/-- One item more, and the total behind it. -/
theorem ExprRoll.Bounded.snoc (hB : 2 ≤ B) (bounded : o.Bounded B) (length : o.partials.length = o.items.length)
    (op : Operator) (h : r.value.natAbs ≤ B ^ r.terms) :
    (ExprRoll.snoc o op r (op.apply o.value r.value)).Bounded B := by
  have hvalue : (op.apply o.value r.value).natAbs ≤ B ^ (o.terms + r.terms) :=
    op.natAbs_apply_le hB o.one_le_terms r.one_le_terms bounded.value h
  refine ⟨?_, ?_, ?_⟩
  · rw [items_snoc, List.forall_mem_append]
    refine ⟨bounded.items, fun item hitem => ?_⟩
    cases List.mem_singleton.1 hitem
    exact h
  · intro i total htotal
    rw [ExprRoll.partials] at htotal
    rw [items_snoc]
    rcases Nat.lt_or_ge i o.partials.length with hlt | hge
    · rw [List.getElem?_append_left hlt] at htotal
      rw [List.take_append_of_le_length (by omega)]
      exact bounded.partials i total htotal
    · -- the total behind the new item is made from all terms
      have hall : ((o.items ++ [r]).take (i + 1)).map ItemRoll.terms = (o.items ++ [r]).map ItemRoll.terms := by
        rw [List.take_of_length_le]
        rw [List.length_append, List.length_singleton]
        omega
      have htotal' : total = op.apply o.value r.value := by
        rw [List.getElem?_append_right hge] at htotal
        exact List.mem_singleton.1 (List.mem_of_getElem? htotal)
      rw [hall, ← items_snoc o op r (op.apply o.value r.value), ExprRoll.sum_terms_items, ExprRoll.terms_snoc, htotal']
      exact hvalue
  · rw [ExprRoll.terms_snoc]
    exact hvalue

mutual

theorem ItemRoll.natAbs_value_le (hB : 2 ≤ B) : ∀ {item : Item} {r : ItemRoll}, item.Yields r →
    (∀ leaf ∈ r.leaves, leaf.value.natAbs ≤ B) → r.value.natAbs ≤ B ^ r.terms
  | _, _, .number n, leaves => by
    show _ ≤ B ^ 1
    rw [Nat.pow_one]
    exact leaves _ (List.mem_singleton_self _)
  | _, _, .dice _ _, leaves => by
    show _ ≤ B ^ 1
    rw [Nat.pow_one]
    exact leaves _ (List.mem_singleton_self _)
  | _, _, .group inner, leaves => (ExprRoll.bounded_of_leaves hB inner leaves).value

/-- If the base bounds each number and dice term, its powers bound all values in the row. -/
theorem ExprRoll.bounded_of_leaves (hB : 2 ≤ B) : ∀ {e : Expr} {o : ExprRoll}, e.Yields o →
    (∀ leaf ∈ o.leaves, leaf.value.natAbs ≤ B) → o.Bounded B
  | _, _, .single only, leaves => .single (ItemRoll.natAbs_value_le hB only leaves)
  | _, _, .snoc op row last, leaves => by
    obtain ⟨hrow, hlast⟩ := List.forall_mem_append.1 leaves
    exact .snoc hB (ExprRoll.bounded_of_leaves hB row hrow) (ExprRoll.consistent_of_yields row).length op
      (ItemRoll.natAbs_value_le hB last hlast)

end

/-- The rows of the groups are bounded as the row is. -/
theorem ExprRoll.bounded_of_mem_rows (hB : 2 ≤ B) {e : Expr} (h : e.Yields o)
    (leaves : ∀ leaf ∈ o.leaves, leaf.value.natAbs ≤ B) : ∀ row ∈ o.rows, row.Bounded B := by
  intro row hrow
  obtain ⟨e', h'⟩ := exists_yields_of_mem_rows h row hrow
  exact bounded_of_leaves hB h' fun leaf hleaf => leaves leaf (leaves_subset o row hrow hleaf)

end Bounded

/-! ## Numbers and dice terms -/

/-- A base whose powers bound the values of all commands within the bounds. -/
def Limits.base (L : Limits) : Nat :=
  max 2 (max L.number (L.rolls * L.sides))

/-- A dice term comes to no more than all sides of its dice together, if every die shows one of its sides. -/
theorem DiceRoll.Sound.natAbs_value_le {d : DiceRoll} (sound : d.Sound) {rolls sides : Nat}
    (hrolls : d.dice.rolls ≤ rolls) (hsides : d.dice.sides ≤ sides)
    (inRange : ∀ p ∈ d.points, 1 ≤ p ∧ p ≤ d.dice.sides) : d.value.natAbs ≤ rolls * sides := by
  obtain ⟨hleast, hmost⟩ := Aggregate.apply_bounds d.dice.aggregate inRange
  rw [← sound.value, sound.length] at *
  have hside := sound.sides
  have hall : (d.dice.rolls : Int) * d.dice.sides ≤ (rolls * sides : Nat) := by
    rw [Int.natCast_mul]
    exact Int.mul_le_mul (by omega) hsides (by omega) (Int.natCast_nonneg _)
  omega

section Leaves

variable {B : Nat}

mutual

theorem ItemRoll.leaves_le : ∀ {item : Item} {r : ItemRoll}, item.Yields r →
    (∀ n ∈ item.leaves.filterMap Item.number?, n.natAbs ≤ B) → (∀ d ∈ r.diceRolls, d.value.natAbs ≤ B) →
    ∀ leaf ∈ r.leaves, leaf.value.natAbs ≤ B
  | _, _, .number n, numbers, _ => by
    intro leaf hleaf
    cases List.mem_singleton.1 hleaf
    exact numbers n (List.mem_singleton_self n)
  | _, _, .dice _ _, _, dice => by
    intro leaf hleaf
    cases List.mem_singleton.1 hleaf
    exact dice _ (List.mem_singleton_self _)
  | _, _, .group inner, numbers, dice => ExprRoll.leaves_le inner numbers dice

theorem ExprRoll.leaves_le : ∀ {e : Expr} {o : ExprRoll}, e.Yields o → (∀ n ∈ e.numbers, n.natAbs ≤ B) →
    (∀ d ∈ o.diceRolls, d.value.natAbs ≤ B) → ∀ leaf ∈ o.leaves, leaf.value.natAbs ≤ B
  | _, _, .single only, numbers, dice => ItemRoll.leaves_le only numbers dice
  | _, _, .snoc _ row last, numbers, dice => by
    rw [Expr.numbers, Expr.leaves, List.filterMap_append] at numbers
    obtain ⟨hrow, hlast⟩ := List.forall_mem_append.1 numbers
    obtain ⟨hrow', hlast'⟩ := List.forall_mem_append.1 dice
    exact List.forall_mem_append.2 ⟨ExprRoll.leaves_le row hrow hrow', ItemRoll.leaves_le last hlast hlast'⟩

end

/-- In an outcome of a command within the bounds the base bounds each number and dice term. -/
theorem ExprRoll.leaves_le_base {L : Limits} {e : Expr} {checker : Option Checker} {o : ExprRoll} (h : e.Yields o)
    (within : Within L e checker) (inRange : ∀ d ∈ o.draws, 1 ≤ d.point ∧ d.point ≤ d.sides) :
    ∀ leaf ∈ o.leaves, leaf.value.natAbs ≤ L.base := by
  refine leaves_le h (fun n hn => ?_) (fun d hd => ?_)
  · have hnumber := within.numbers n hn
    unfold Limits.base
    omega
  · have hdice : d.dice ∈ e.dice := by
      rw [← dice_diceRolls h]
      exact List.mem_map_of_mem hd
    have hrolls : d.dice.rolls ≤ L.rolls :=
      Nat.le_trans (List.le_sum_of_mem (List.mem_map_of_mem hdice)) within.rolls
    have hpoints : ∀ p ∈ d.points, 1 ≤ p ∧ p ≤ d.dice.sides :=
      fun p hp => inRange ⟨d.dice.sides, p⟩ (List.mem_flatMap.2 ⟨d, hd, List.mem_map_of_mem hp⟩)
    have hvalue := (sound_of_mem h d hd).natAbs_value_le hrolls (within.sides _ hdice) hpoints
    unfold Limits.base
    omega

end Leaves

/-! ## Commands -/

/-- **The bounds on a command bound the values of its rolls.** Let a text be read under some bounds and a roll of it
succeed, in which every die shows one of its sides. Then each value in the outcome, of an item, of a group or behind an
item, is at most the base to the power of the number of numbers and dice terms it is made from. So the value is at most
the base to the power of the greatest number of items, and under the standard bounds at most `10 ^ 100`. -/
theorem rollCommand_bounded {σ : Type} [Source σ] {L : Limits} {text : String} {reading : Reading} {keepDetail : Bool}
    {language : Language} {source after : σ} {r : RollResult} (accepted : read L text = .ok reading)
    (rolled : rollCommand reading.expr reading.checker keepDetail language source = (.ok r, after))
    (inRange : ∀ d ∈ (rollCommand reading.expr reading.checker keepDetail language (Watched.mk source [])).2.draws,
      1 ≤ d.point ∧ d.point ≤ d.sides) :
    (∀ o ∈ r.detail, ∀ row ∈ o.rows, row.Bounded L.base) ∧
      r.value.natAbs ≤ L.base ^ reading.expr.itemCount ∧ r.value.natAbs ≤ L.base ^ (L.itemCount : Nat) ∧
      (L = .standard → r.value.natAbs ≤ 10 ^ 100) := by
  obtain ⟨_, -, -, within, -, -⟩ := sentence_of_read accepted
  obtain ⟨o, yields, rfl, watched⟩ := rollCommand_watched rolled
  rw [watched] at inRange
  have hB : 2 ≤ L.base := Nat.le_max_left _ _
  have bounded := ExprRoll.bounded_of_mem_rows hB yields (ExprRoll.leaves_le_base yields within inRange)
  have hvalue : o.value.natAbs ≤ L.base ^ reading.expr.itemCount := by
    rw [← ExprRoll.terms_eq yields]
    exact (bounded o List.mem_cons_self).value
  have hmost : o.value.natAbs ≤ L.base ^ (L.itemCount : Nat) :=
    Nat.le_trans hvalue (Nat.pow_le_pow_right (by omega) within.items)
  refine ⟨?_, hvalue, hmost, ?_⟩
  · intro o' ho'
    cases keepDetail with
    | true =>
      cases ho'
      exact bounded
    | false => cases ho'
  · rintro rfl
    exact hmost

/-- A group below zero, multiplied by a mean and by a sum: the value of four terms has nine digits. -/
theorem rollCommand_bounded_product :
    ∃ (reading : Reading) (r : RollResult),
      read .standard "(2d6max - 65536) x 2d8avg * 3D1000" = .ok reading ∧
      rollCommand reading.expr reading.checker true .en ([5, 2, 7, 4, 1000, 999, 998] : List Int) = (.ok r, []) ∧
      (∀ d ∈ (rollCommand reading.expr reading.checker true .en
        (Watched.mk ([5, 2, 7, 4, 1000, 999, 998] : List Int) [])).2.draws, 1 ≤ d.point ∧ d.point ≤ d.sides) ∧
      r.value = -981982035 ∧ r.value.natAbs ≤ Limits.standard.base ^ 4 := by
  let e : Expr := .snoc (.snoc (.single (.group (.snoc (.single (.dice ⟨2, 6, .max⟩)) .sub (.number 65536)))) .mul
    (.dice ⟨2, 8, .avg⟩)) .mul (.dice ⟨3, 1000, .sum⟩)
  have accepted : read .standard "(2d6max - 65536) x 2d8avg * 3D1000" = .ok ⟨e, none, 4, 7⟩ := by decide +kernel
  have rolled : rollCommand e none true .en ([5, 2, 7, 4, 1000, 999, 998] : List Int) = (.ok _, []) := rfl
  have inRange : ∀ d ∈ (rollCommand e none true .en
      (Watched.mk ([5, 2, 7, 4, 1000, 999, 998] : List Int) [])).2.draws, 1 ≤ d.point ∧ d.point ≤ d.sides := by decide
  obtain ⟨-, bounded, -, -⟩ := rollCommand_bounded accepted rolled inRange
  exact ⟨_, _, accepted, rolled, inRange, rfl, bounded⟩

end DiceNotation
