import DiceNotation.Proofs.Roll.Drawing
import Mathlib.Data.List.Induction
import Mathlib.Logic.Relation

/-!
# Groups that make no difference

Without precedence a row is a fold over its items from the left. So a group that comes first does what its row does
without the parentheses, and a group of one item does what the item does, wherever it stands. A dice term that rolls
nothing is a 0.

* `Item.Simplifies`, `Expr.Simplifies`: one rewrite of this kind anywhere in an item and in an expression.
* `Item.total`, `Expr.total`: what an item and a row come to, as computations that draw from a source.
* `Expr.total_ofItems`: the total of a row is a fold over its items.
* `Expr.total_eq_of_simplifies`: a rewrite does not change this computation.
* `rollCommand_of_simplifies`: what a command draws, its value and its verdict are the same after any number of rewrites.
-/

namespace DiceNotation

/-! ## Rewrites -/

mutual

/-- One rewrite in an item. -/
inductive Item.Simplifies : Item → Item → Prop
  /-- A group of one item is the item. -/
  | lone (item : Item) : Item.Simplifies (.group (.single item)) item
  /-- A dice term that rolls nothing is 0, provided that its dice have a side. -/
  | noDice {d : Dice} (count : d.count ≤ 0) (sides : 1 ≤ d.sides) : Item.Simplifies (.dice d) (.number 0)
  | inside {e e' : Expr} (inner : e.Simplifies e') : Item.Simplifies (.group e) (.group e')

/-- One rewrite in an expression. -/
inductive Expr.Simplifies : Expr → Expr → Prop
  /-- A group that comes first is opened. -/
  | leading (first : Item) (inner rest : List (Operator × Item)) :
      Expr.Simplifies (Expr.ofItems (.group (Expr.ofItems first inner)) rest) (Expr.ofItems first (inner ++ rest))
  | first {item item' : Item} (rest : List (Operator × Item)) (one : item.Simplifies item') :
      Expr.Simplifies (Expr.ofItems item rest) (Expr.ofItems item' rest)
  | later {item item' : Item} (first : Item) (before : List (Operator × Item)) (op : Operator)
      (after : List (Operator × Item)) (one : item.Simplifies item') :
      Expr.Simplifies (Expr.ofItems first (before ++ (op, item) :: after))
        (Expr.ofItems first (before ++ (op, item') :: after))

end

/-! ## Totals -/

section

variable {σ : Type} [Source σ]

/-- What an item comes to. -/
def Item.total (item : Item) : RollM σ Int :=
  ItemRoll.value <$> item.roll

/-- What a row comes to. -/
def Expr.total (e : Expr) : RollM σ Int :=
  ExprRoll.value <$> e.roll

/-- The total behind one item more. -/
def extendTotal (total : Int) (next : Operator × Item) : RollM σ Int :=
  next.1.apply total <$> next.2.total

theorem Item.total_number (n : Int) : ((Item.number n).total : RollM σ Int) = pure n := rfl

theorem Item.total_group (e : Expr) : ((Item.group e).total : RollM σ Int) = e.total := by
  simp [Item.total, Expr.total, Item.roll, ItemRoll.value]

theorem Expr.total_single (item : Item) : ((Expr.single item).total : RollM σ Int) = item.total := by
  simp [Item.total, Expr.total, Expr.roll, ExprRoll.value]

theorem Expr.total_snoc (before : Expr) (op : Operator) (item : Item) :
    ((Expr.snoc before op item).total : RollM σ Int) = before.total >>= fun total => extendTotal total (op, item) := by
  simp [Expr.total, extendTotal, Item.total, Expr.roll, ExprRoll.value]

/-- Dice that are not rolled come to 0, whatever the aggregate. -/
theorem Item.total_dice_of_count {d : Dice} (count : d.count ≤ 0) (sides : 1 ≤ d.sides) :
    ((Item.dice d).total : RollM σ Int) = pure 0 := by
  have hrolls : d.rolls = 0 := Int.toNat_of_nonpos count
  have hroll : (d.roll : RollM σ DiceRoll) = pure ⟨d, [], d.aggregate.apply []⟩ := by
    rw [Dice.roll, if_neg (Int.not_lt.2 sides), hrolls]
    rfl
  rw [Item.total, Item.roll, hroll]
  cases d.aggregate <;> rfl

/-- The total of a row is a fold over its items. -/
theorem Expr.total_ofItems (first : Item) (rest : List (Operator × Item)) :
    ((Expr.ofItems first rest).total : RollM σ Int) =
      first.total >>= fun total => rest.foldlM extendTotal total := by
  induction rest using List.reverseRecOn with
  | nil => simp [Expr.ofItems, Expr.total_single]
  | append_singleton rest next ih =>
    -- the row is built from the left, and so its last item is the outermost
    have hrow : Expr.ofItems first (rest ++ [next]) = .snoc (Expr.ofItems first rest) next.1 next.2 := by
      simp [Expr.ofItems]
    rw [hrow, Expr.total_snoc, ih]
    simp [List.foldlM_append]

end

/-! ## A rewrite changes no total -/

section

variable {σ : Type} [Source σ]

/-- A group that comes first is folded like the items in it, and the items after it follow. -/
theorem Expr.total_leading (first : Item) (inner rest : List (Operator × Item)) :
    ((Expr.ofItems first (inner ++ rest)).total : RollM σ Int) =
      (Expr.ofItems (.group (Expr.ofItems first inner)) rest).total := by
  rw [Expr.total_ofItems, Expr.total_ofItems, Item.total_group, Expr.total_ofItems, bind_assoc]
  simp only [List.foldlM_append]

/-- Items that come to the same may stand for each other at any place of a row. -/
theorem Expr.total_later {item item' : Item} (h : (item'.total : RollM σ Int) = item.total) (first : Item)
    (before : List (Operator × Item)) (op : Operator) (after : List (Operator × Item)) :
    ((Expr.ofItems first (before ++ (op, item') :: after)).total : RollM σ Int) =
      (Expr.ofItems first (before ++ (op, item) :: after)).total := by
  have hextend : ∀ total : Int, (extendTotal total (op, item') : RollM σ Int) = extendTotal total (op, item) := by
    intro total
    rw [extendTotal, h]
    rfl
  simp only [Expr.total_ofItems, List.foldlM_append, List.foldlM_cons, hextend]

mutual

theorem Item.total_eq_of_simplifies : ∀ {item item' : Item}, item.Simplifies item' →
    (item'.total : RollM σ Int) = item.total
  | _, _, .lone item => by rw [Item.total_group, Expr.total_single]
  | _, _, .noDice count sides => by rw [Item.total_dice_of_count count sides, Item.total_number]
  | _, _, .inside inner => by rw [Item.total_group, Item.total_group, Expr.total_eq_of_simplifies inner]

/-- A rewrite anywhere in an expression does not change what it comes to, whatever the source. -/
theorem Expr.total_eq_of_simplifies : ∀ {e e' : Expr}, e.Simplifies e' → (e'.total : RollM σ Int) = e.total
  | _, _, .leading first inner rest => Expr.total_leading first inner rest
  | _, _, .first rest one => by
    rw [Expr.total_ofItems, Expr.total_ofItems, Item.total_eq_of_simplifies one]
  | _, _, .later first before op after one =>
    Expr.total_later (Item.total_eq_of_simplifies one) first before op after

end

/-- Any number of rewrites leaves it the same. -/
theorem Expr.total_eq_of_rewrites {e e' : Expr} (h : Relation.ReflTransGen Expr.Simplifies e e') :
    (e'.total : RollM σ Int) = e.total := by
  induction h with
  | refl => rfl
  | tail _ one ih => rw [Expr.total_eq_of_simplifies one, ih]

/-! ## Commands -/

/-- The value of a result and the verdict on it. -/
def RollResult.judged (r : RollResult) : Int × Option Bool :=
  (r.value, r.success)

/-- Judge a value, which has to be one that can be written. -/
def judge (checker : Option Checker) (value : Int) : RollM σ (Int × Option Bool) :=
  if Writable value then pure (value, checker.map (·.check value)) else throw .unwritable

/-- The value and the verdict of a command depend on the total of its row alone. -/
theorem map_rollCommand (e : Expr) (checker : Option Checker) (keepDetail : Bool) (language : Language) :
    (RollResult.judged <$> rollCommand e checker keepDetail language : RollM σ (Int × Option Bool)) =
      e.total >>= judge checker := by
  simp only [rollCommand, Expr.total, map_bind, bind_map_left]
  congr 1
  funext outcome
  simp only [judge]
  split <;> simp [RollResult.judged]

/-- **Redundant groups and dice that are not rolled make no difference.** Let an expression be rewritten any number of
times, each time at any place. Whatever the checker and whatever the source, also one that runs out, a roll of the one and
a roll of the other ask for the same dice and leave the source the same. Either both fail with the same error, which names
the die when the source has run out, or both succeed with the same value and the same verdict. -/
theorem rollCommand_of_simplifies {e e' : Expr} (h : Relation.ReflTransGen Expr.Simplifies e e')
    (checker : Option Checker) (keepDetail : Bool) (language : Language) (source : σ) :
    let run := rollCommand e checker keepDetail language (Recorded.mk source [])
    let run' := rollCommand e' checker keepDetail language (Recorded.mk source [])
    run'.2.asked = run.2.asked ∧ run'.2.source = run.2.source ∧
      run'.1.map RollResult.judged = run.1.map RollResult.judged := by
  intro run run'
  have hcommand : (RollResult.judged <$> rollCommand e' checker keepDetail language : RollM (Recorded σ) _) =
      RollResult.judged <$> rollCommand e checker keepDetail language := by
    rw [map_rollCommand, map_rollCommand, Expr.total_eq_of_rewrites h]
  have hrun := congrFun hcommand (Recorded.mk source [])
  rw [Attempt.map_apply, Attempt.map_apply] at hrun
  obtain ⟨hresult, hafter⟩ := Prod.mk.inj hrun
  exact ⟨congrArg Recorded.asked hafter, congrArg Recorded.source hafter, hresult⟩

end

/-- In a row with two dice a group of one item, a leading group and a dice term in a group that rolls nothing are rewritten.
Both rows roll the two dice, and come to the same. -/
theorem rollCommand_of_simplifies_nested :
    let two : Item := .dice ⟨2, 6, .sum⟩
    let e : Expr := .ofItems (.group (.single (.group (.ofItems two [(.sub, .number 3)]))))
      [(.mul, .number 4), (.add, .group (.ofItems (.number 1) [(.mul, .dice ⟨-1, 8, .max⟩)]))]
    let e' : Expr := .ofItems two
      [(.sub, .number 3), (.mul, .number 4), (.add, .group (.ofItems (.number 1) [(.mul, .number 0)]))]
    let run := rollCommand e (some ⟨.ge, 30⟩) false .en (Recorded.mk ([5, 6, 2] : List Int) [])
    let run' := rollCommand e' (some ⟨.ge, 30⟩) false .en (Recorded.mk ([5, 6, 2] : List Int) [])
    Relation.ReflTransGen Expr.Simplifies e e' ∧
      run'.2.asked = run.2.asked ∧ run.2.asked = [6, 6] ∧
      run'.1.map RollResult.judged = run.1.map RollResult.judged ∧
      run.1.map RollResult.judged = .ok (32, some true) := by
  intro two e e' run run'
  let row : Expr := .ofItems two [(.sub, .number 3)]
  let last : Item := .dice ⟨-1, 8, .max⟩
  have lone : e.Simplifies (.ofItems (.group row)
      [(.mul, .number 4), (.add, .group (.ofItems (.number 1) [(.mul, last)]))]) :=
    .first _ (.lone (.group row))
  have leading : Expr.Simplifies _ (.ofItems two
      [(.sub, .number 3), (.mul, .number 4), (.add, .group (.ofItems (.number 1) [(.mul, last)]))]) :=
    .leading two [(.sub, .number 3)] [(.mul, .number 4), (.add, .group (.ofItems (.number 1) [(.mul, last)]))]
  have noDice : Expr.Simplifies (.ofItems (.number 1) [(.mul, last)]) (.ofItems (.number 1) [(.mul, .number 0)]) :=
    .later (.number 1) [] .mul [] (.noDice (by decide) (by decide))
  have inside : Expr.Simplifies _ e' :=
    .later two [(.sub, .number 3), (.mul, .number 4)] .add [] (.inside noDice)
  have rewrites : Relation.ReflTransGen Expr.Simplifies e e' :=
    ((Relation.ReflTransGen.single lone).tail leading).tail inside
  have hrun := rollCommand_of_simplifies rewrites (some ⟨.ge, 30⟩) false .en ([5, 6, 2] : List Int)
  exact ⟨rewrites, hrun.1, by decide, hrun.2.2, by decide⟩

end DiceNotation
