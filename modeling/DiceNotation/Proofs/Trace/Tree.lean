import DiceNotation.Proofs.Grammar.Spelling
import DiceNotation.Proofs.Roll.Outcome
import DiceNotation.Trace

/-!
# The trace of an outcome as an expression

The trace of an outcome whose dice terms are sums of at least one point spells an expression again: the points of a dice
term are a group of numbers that are added up, and everything else stays as it is.

* `ExprRoll.retrace`: the expression.
* `ExprRoll.spells`: the trace spells it.
* `ExprRoll.leaves_retrace`, `ExprRoll.nesting_retrace`: it holds the numbers of the trace and no dice terms.
* `ExprRoll.constant_retrace`: rolled from any source, it has the value of the outcome and draws nothing.
-/

namespace DiceNotation

/-! ## Numbers and parentheses of a trace -/

mutual

/-- The numbers in the trace of an item, in order. -/
def ItemRoll.written : ItemRoll → List Int
  | .number n => [n]
  | .dice d => d.points
  | .group e => e.written
  | .unknown _ => []

/-- The numbers in the trace of a row, in order. -/
def ExprRoll.written : ExprRoll → List Int
  | .single item _ => item.written
  | .snoc before _ item _ => before.written ++ item.written

end

mutual

/-- How deep the parentheses in the trace of an item are nested. -/
def ItemRoll.nesting : ItemRoll → Nat
  | .dice _ => 1
  | .group e => e.nesting + 1
  | _ => 0

/-- How deep the parentheses in the trace of a row are nested. -/
def ExprRoll.nesting : ExprRoll → Nat
  | .single item _ => item.nesting
  | .snoc before _ item _ => max before.nesting item.nesting

end

/-! ## The expression of a trace -/

/-- A row with some numbers more that are added. -/
def Expr.plus (e : Expr) (ns : List Int) : Expr :=
  ns.foldl (fun e n => .snoc e .add (.number n)) e

theorem Expr.plus_cons (e : Expr) (n : Int) (ns : List Int) :
    e.plus (n :: ns) = (snoc e .add (.number n)).plus ns := rfl

/-- A row that adds up some numbers; 0 if there are none. -/
def Expr.sum : List Int → Expr
  | [] => .single (.number 0)
  | n :: ns => (single (.number n)).plus ns

mutual

/-- The item that the trace of an item spells. -/
def ItemRoll.retrace : ItemRoll → Item
  | .number n => .number n
  | .dice d => .group (.sum d.points)
  | .group e => .group e.retrace
  | .unknown text => .unknown text

/-- The expression that the trace of a row spells. -/
def ExprRoll.retrace : ExprRoll → Expr
  | .single item _ => .single item.retrace
  | .snoc before op item _ => .snoc before.retrace op item.retrace

end

/-- A dice term whose trace is a sum of points. -/
def Dice.Plain (d : Dice) : Prop :=
  d.aggregate = .sum ∧ 1 ≤ d.count

instance (d : Dice) : Decidable d.Plain :=
  inferInstanceAs (Decidable (_ ∧ _))

/-! ## Spelling -/

theorem Expr.plus_eq_adding (e : Expr) (ns : List Int) : e.plus ns = e.adding (ns.map .number) :=
  List.foldl_map.symm

/-- The points of a dice term, with plus signs between them, are the row that adds them up. -/
theorem spells_points {ns : List Int} (nonempty : ns ≠ []) (writable : ∀ n ∈ ns, Writable n) :
    Spells (ExprOf · (.sum ns)) (['+'].intercalate (ns.map decimal)) := by
  obtain ⟨n, ns, rfl⟩ := List.exists_cons_of_ne_nil nonempty
  have hsum := @spells_sum Int .number decimal n ns fun m hm => spells_number (writable m hm)
  rw [← Expr.plus_eq_adding] at hsum
  exact hsum

/-! ## Outcomes that are spelled -/

theorem Dice.Plain.points_ne_nil {d : Dice} (h : d.Plain) {points : List Int} (length : points.length = d.rolls) :
    points ≠ [] := by
  intro hnil
  have hcount := h.2
  rw [hnil, Dice.rolls, List.length_nil] at length
  omega

mutual

theorem ItemRoll.spells : ∀ {item : Item} {r : ItemRoll}, item.Yields r →
    (∀ d ∈ item.diceTerms, d.Plain) → (∀ n ∈ r.written, Writable n) →
    Spells (ItemOf · r.retrace) r.chars
  | _, _, .number n, _, writable => spells_number (writable n (List.mem_singleton_self n))
  | _, _, @Item.Yields.dice d points _ length, plain, writable => by
    have hd : d.Plain := plain d (List.mem_singleton_self d)
    have hsum := spells_group (spells_points (hd.points_ne_nil length) writable)
    simpa [ItemRoll.retrace, ItemRoll.chars, DiceRoll.chars, hd.1, Aggregate.frame] using hsum
  | _, _, .group inner, plain, writable => spells_group (ExprRoll.spells inner plain writable)

/-- The trace of an outcome whose dice terms are plain spells an expression. -/
theorem ExprRoll.spells : ∀ {e : Expr} {o : ExprRoll}, e.Yields o → (∀ d ∈ e.dice, d.Plain) →
    (∀ n ∈ o.written, Writable n) → Spells (ExprOf · o.retrace) o.chars
  | _, _, .single only, plain, writable => spells_single (ItemRoll.spells only plain writable)
  | _, _, .snoc op row last, plain, writable => by
    rw [Expr.dice_snoc] at plain
    obtain ⟨hrow, hlast⟩ := List.forall_mem_append.1 plain
    obtain ⟨hrow', hlast'⟩ := List.forall_mem_append.1 writable
    exact spells_snoc op gap_space gap_space (ExprRoll.spells row hrow hrow') (ItemRoll.spells last hlast hlast')

end

/-! ## Leaves and groups -/

theorem Expr.leaves_plus (e : Expr) (ns : List Int) : (e.plus ns).leaves = e.leaves ++ ns.map .number := by
  rw [plus_eq_adding, leaves_adding, List.flatMap_map]
  exact congrArg _ List.map_eq_flatMap.symm

theorem Expr.nesting_plus (e : Expr) (ns : List Int) : (e.plus ns).nesting = e.nesting := by
  rw [plus_eq_adding]
  refine nesting_adding (fun item hitem => ?_) e
  obtain ⟨n, -, rfl⟩ := List.mem_map.1 hitem
  rfl

theorem Expr.leaves_sum {ns : List Int} (nonempty : ns ≠ []) : (sum ns).leaves = ns.map .number := by
  obtain ⟨n, ns, rfl⟩ := List.exists_cons_of_ne_nil nonempty
  exact leaves_plus _ ns

theorem Expr.nesting_sum : ∀ ns : List Int, (sum ns).nesting = 0
  | [] => rfl
  | _ :: ns => nesting_plus _ ns

mutual

theorem ItemRoll.leaves_retrace : ∀ {item : Item} {r : ItemRoll}, item.Yields r →
    (∀ d ∈ item.diceTerms, d.Plain) → r.retrace.leaves = r.written.map .number
  | _, _, .number _, _ => rfl
  | _, _, @Item.Yields.dice d points _ length, plain => by
    have hd : d.Plain := plain d (List.mem_singleton_self d)
    exact Expr.leaves_sum (hd.points_ne_nil length)
  | _, _, .group inner, plain => ExprRoll.leaves_retrace inner plain

/-- The expression of a trace holds the numbers of the trace and nothing else. -/
theorem ExprRoll.leaves_retrace : ∀ {e : Expr} {o : ExprRoll}, e.Yields o → (∀ d ∈ e.dice, d.Plain) →
    o.retrace.leaves = o.written.map .number
  | _, _, .single only, plain => ItemRoll.leaves_retrace only plain
  | _, _, .snoc _ row last, plain => by
    rw [Expr.dice_snoc] at plain
    obtain ⟨hrow, hlast⟩ := List.forall_mem_append.1 plain
    rw [ExprRoll.retrace, Expr.leaves, ExprRoll.leaves_retrace row hrow, ItemRoll.leaves_retrace last hlast,
      ExprRoll.written, List.map_append]

end

mutual

theorem ItemRoll.nesting_retrace : ∀ r : ItemRoll, r.retrace.nesting = r.nesting
  | .number _ => rfl
  | .dice d => by rw [ItemRoll.retrace, Item.nesting, Expr.nesting_sum, ItemRoll.nesting]
  | .group e => congrArg (· + 1) (ExprRoll.nesting_retrace e)
  | .unknown _ => rfl

/-- The groups of the expression are nested as the parentheses of the trace are. -/
theorem ExprRoll.nesting_retrace : ∀ o : ExprRoll, o.retrace.nesting = o.nesting
  | .single item _ => ItemRoll.nesting_retrace item
  | .snoc before _ item _ => by
    rw [ExprRoll.retrace, Expr.nesting, ExprRoll.nesting_retrace before, ItemRoll.nesting_retrace item,
      ExprRoll.nesting]

end

section Numbers

variable {e : Expr} {ns : List Int}

theorem dice_of_leaves (h : e.leaves = ns.map .number) : e.dice = [] := by
  rw [Expr.dice, h, List.filterMap_map]
  exact List.filterMap_eq_nil_iff.2 fun _ _ => rfl

theorem numbers_of_leaves (h : e.leaves = ns.map .number) : e.numbers = ns := by
  rw [Expr.numbers, h, List.filterMap_map]
  exact List.filterMap_some

theorem itemCount_of_leaves (h : e.leaves = ns.map .number) : e.itemCount = ns.length := by
  rw [Expr.itemCount, h, List.countP_map]
  exact List.countP_eq_length.2 fun _ _ => rfl

end Numbers

/-! ## Rolling -/

/-- An item that has one value and draws nothing, whatever the source. -/
def Item.Constant (item : Item) (value : Int) : Prop :=
  ∀ (σ : Type) [Source σ] (source : σ), ∃ r : ItemRoll, item.roll source = (.ok r, source) ∧ r.value = value

/-- A row that has one value and draws nothing, whatever the source. -/
def Expr.Constant (e : Expr) (value : Int) : Prop :=
  ∀ (σ : Type) [Source σ] (source : σ), ∃ o : ExprRoll, e.roll source = (.ok o, source) ∧ o.value = value

section Rolling

variable {e : Expr} {item : Item} {v w : Int}

theorem constant_number (n : Int) : (Item.number n).Constant n :=
  fun _ _ _ => ⟨.number n, rfl, rfl⟩

theorem Item.Constant.single (h : item.Constant v) : (Expr.single item).Constant v := by
  intro σ _ source
  obtain ⟨r, hroll, hvalue⟩ := h σ source
  refine ⟨.single r r.value, ?_, hvalue⟩
  rw [Expr.roll, Attempt.bind_apply, hroll]
  rfl

theorem Expr.Constant.snoc (op : Operator) (row : e.Constant v) (last : item.Constant w) :
    (Expr.snoc e op item).Constant (op.apply v w) := by
  intro σ _ source
  obtain ⟨o, hrow, hv⟩ := row σ source
  obtain ⟨r, hlast, hw⟩ := last σ source
  refine ⟨.snoc o op r (op.apply o.value r.value), ?_, by rw [ExprRoll.value, hv, hw]⟩
  simp only [Expr.roll, Attempt.bind_apply, hrow, hlast]
  rfl

theorem Expr.Constant.group (h : e.Constant v) : (Item.group e).Constant v := by
  intro σ _ source
  obtain ⟨o, hroll, hvalue⟩ := h σ source
  refine ⟨.group o, ?_, hvalue⟩
  rw [Item.roll, Attempt.bind_apply, hroll]
  rfl

theorem Expr.Constant.plus (h : e.Constant v) (ns : List Int) : (e.plus ns).Constant (v + ns.foldr (· + ·) 0) := by
  induction ns generalizing e v with
  | nil => simpa [Expr.plus] using h
  | cons n ns ih =>
    have hrest := ih (h.snoc .add (constant_number n))
    rw [Expr.plus_cons, List.foldr_cons, ← Int.add_assoc]
    exact hrest

theorem constant_sum : ∀ ns : List Int, (Expr.sum ns).Constant (Aggregate.sum.apply ns)
  | [] => (constant_number 0).single
  | n :: ns => (constant_number n).single.plus ns

mutual

theorem ItemRoll.constant_retrace : ∀ {item : Item} {r : ItemRoll}, item.Yields r →
    (∀ d ∈ item.diceTerms, d.Plain) → r.retrace.Constant r.value
  | _, _, .number n, _ => constant_number n
  | _, _, @Item.Yields.dice d points _ _, plain => by
    have hd : d.Plain := plain d (List.mem_singleton_self d)
    show (Item.group (.sum points)).Constant (d.aggregate.apply points)
    rw [hd.1]
    exact (constant_sum points).group
  | _, _, .group inner, plain => (ExprRoll.constant_retrace inner plain).group

/-- Rolled again, the expression of a trace has the value of the outcome. -/
theorem ExprRoll.constant_retrace : ∀ {e : Expr} {o : ExprRoll}, e.Yields o → (∀ d ∈ e.dice, d.Plain) →
    o.retrace.Constant o.value
  | _, _, .single only, plain => (ItemRoll.constant_retrace only plain).single
  | _, _, .snoc op row last, plain => by
    rw [Expr.dice_snoc] at plain
    obtain ⟨hrow, hlast⟩ := List.forall_mem_append.1 plain
    exact (ExprRoll.constant_retrace row hrow).snoc op (ItemRoll.constant_retrace last hlast)

end

end Rolling

end DiceNotation
