import DiceNotation.Proofs.Roll.Watching

/-!
# Outcomes mirror expressions

The outcome of a roll is the expression with the points and the totals put in, and its totals are right in every row.

* `ExprRoll.rolled`: the expression that was rolled, read off its outcome.
* `ExprRoll.rows`: a row and the rows of the groups in it.
* `ExprRoll.Consistent`: the running totals of a row are made from its items, one after another.
* `rollCommand_mirrors`: what a roll that keeps its outcome says of the expression, of the points and of the totals.
-/

namespace DiceNotation

/-! ## What was rolled -/

mutual

/-- The item that was rolled, read off its outcome. -/
def ItemRoll.rolled : ItemRoll → Item
  | .number n => .number n
  | .dice d => .dice d.dice
  | .group e => .group e.rolled
  | .unknown text => .unknown text

/-- The expression that was rolled, read off its outcome. -/
def ExprRoll.rolled : ExprRoll → Expr
  | .single item _ => .single item.rolled
  | .snoc before op item _ => .snoc before.rolled op item.rolled

end

mutual

theorem ItemRoll.rolled_eq : ∀ {item : Item} {r : ItemRoll}, item.Yields r → r.rolled = item
  | _, _, .number _ => rfl
  | _, _, .dice _ _ => rfl
  | _, _, .group inner => by rw [ItemRoll.rolled, ExprRoll.rolled_eq inner]

/-- The outcomes of an expression are outcomes of no other. -/
theorem ExprRoll.rolled_eq : ∀ {e : Expr} {o : ExprRoll}, e.Yields o → o.rolled = e
  | _, _, .single only => by rw [ExprRoll.rolled, ItemRoll.rolled_eq only]
  | _, _, .snoc _ row last => by rw [ExprRoll.rolled, ExprRoll.rolled_eq row, ItemRoll.rolled_eq last]

end

/-! ## Rows -/

mutual

/-- The rows in an item's outcome: that of a group, and those of the groups in it. -/
def ItemRoll.rows : ItemRoll → List ExprRoll
  | .group e => e :: e.inner
  | _ => []

/-- The rows of the groups in a row's outcome, in source order. -/
def ExprRoll.inner : ExprRoll → List ExprRoll
  | .single item _ => item.rows
  | .snoc before _ item _ => before.inner ++ item.rows

end

/-- A row's outcome, and those of the groups in it. -/
def ExprRoll.rows (o : ExprRoll) : List ExprRoll :=
  o :: o.inner

mutual

theorem ItemRoll.exists_yields_of_mem_rows : ∀ {item : Item} {r : ItemRoll}, item.Yields r →
    ∀ row ∈ r.rows, ∃ e : Expr, e.Yields row
  | _, _, .number _ => nofun
  | _, _, .dice _ _ => nofun
  | _, _, .group inner => List.forall_mem_cons.2 ⟨⟨_, inner⟩, ExprRoll.exists_yields_of_mem_inner inner⟩

theorem ExprRoll.exists_yields_of_mem_inner : ∀ {e : Expr} {o : ExprRoll}, e.Yields o →
    ∀ row ∈ o.inner, ∃ e : Expr, e.Yields row
  | _, _, .single only => ItemRoll.exists_yields_of_mem_rows only
  | _, _, .snoc _ row last =>
    List.forall_mem_append.2 ⟨ExprRoll.exists_yields_of_mem_inner row, ItemRoll.exists_yields_of_mem_rows last⟩

end

/-- Every row in an outcome is an outcome of some expression. -/
theorem ExprRoll.exists_yields_of_mem_rows {e : Expr} {o : ExprRoll} (h : e.Yields o) :
    ∀ row ∈ o.rows, ∃ e : Expr, e.Yields row :=
  List.forall_mem_cons.2 ⟨⟨e, h⟩, exists_yields_of_mem_inner h⟩

/-! ## Running totals -/

/-- The items of a row's outcome, groups not opened. -/
def ExprRoll.items (o : ExprRoll) : List ItemRoll :=
  o.first :: o.rest.map (·.2)

/-- The running totals of a row are made from its items, one after another. -/
structure ExprRoll.Consistent (o : ExprRoll) : Prop where
  /-- There is one total for each item. -/
  length : o.partials.length = o.items.length
  /-- The first total is the value of the first item. -/
  first : o.partials[0]? = some o.first.value
  /-- Each other total is what the operator makes of the total before it and of the item. -/
  next : ∀ (i : Nat) (op : Operator) (item : ItemRoll), o.rest[i]? = some (op, item) →
    ∃ total, o.partials[i]? = some total ∧ o.partials[i + 1]? = some (op.apply total item.value)
  /-- The value is the last total. -/
  last : o.partials.getLast? = some o.value

namespace ExprRoll

variable {o : ExprRoll}

theorem length_items (o : ExprRoll) : o.items.length = o.rest.length + 1 := by
  simp [items]

theorem items_snoc (o : ExprRoll) (op : Operator) (r : ItemRoll) (total : Int) :
    (ExprRoll.snoc o op r total).items = o.items ++ [r] := by
  simp [items, ExprRoll.first, rest]

theorem Consistent.single (r : ItemRoll) : (ExprRoll.single r r.value).Consistent :=
  ⟨rfl, rfl, nofun, rfl⟩

/-- The value stands behind as many totals as there are operators. -/
theorem Consistent.partials_length_rest (h : o.Consistent) : o.partials[o.rest.length]? = some o.value := by
  have hlast := h.last
  rw [List.getLast?_eq_getElem?, h.length, length_items, Nat.add_sub_cancel] at hlast
  exact hlast

/-- One item more makes one total more. -/
theorem Consistent.snoc (h : o.Consistent) (op : Operator) (r : ItemRoll) :
    (ExprRoll.snoc o op r (op.apply o.value r.value)).Consistent := by
  have hlen : o.partials.length = o.rest.length + 1 := by rw [h.length, length_items]
  refine ⟨?_, ?_, ?_, List.getLast?_concat⟩
  · rw [partials, items_snoc, List.length_append, List.length_append, h.length]
    rfl
  · rw [partials, List.getElem?_append_left (by omega)]
    exact h.first
  · intro i op' item hitem
    rw [rest] at hitem
    rw [partials]
    rcases Nat.lt_or_ge i o.rest.length with hlt | hge
    · rw [List.getElem?_append_left hlt] at hitem
      obtain ⟨total, htotal, hnext⟩ := h.next i op' item hitem
      refine ⟨total, ?_, ?_⟩
      · rw [List.getElem?_append_left (by omega)]
        exact htotal
      · rw [List.getElem?_append_left (by omega)]
        exact hnext
    · -- the last item: its total stands behind the value so far
      have hi : i = o.rest.length := by
        have hlt := (List.getElem?_eq_some_iff.1 hitem).1
        rw [List.length_append, List.length_singleton] at hlt
        omega
      subst hi
      rw [List.getElem?_concat_length] at hitem
      cases hitem
      refine ⟨o.value, ?_, ?_⟩
      · rw [List.getElem?_append_left (by omega)]
        exact h.partials_length_rest
      · rw [← hlen]
        exact List.getElem?_concat_length

/-- The running totals of an outcome are consistent. -/
theorem consistent_of_yields : ∀ {e : Expr} {o : ExprRoll}, e.Yields o → o.Consistent
  | _, _, .single _ => .single _
  | _, _, .snoc op row _ => (consistent_of_yields row).snoc op _

end ExprRoll

/-! ## Commands -/

/-- **The outcome of a roll mirrors the expression, and its numbers are right at every level.** A roll that succeeds and
keeps its outcome

* has an outcome off which the expression can be read again, with its operators and groups,
* draws just the points of the outcome's dice terms, in source order, and each of these has as many points as its count
  says, none for a count below zero, and their aggregate for a value,
* has consistent running totals in each row, those of groups included,
* and has the row's value, with the checker's verdict on it if there is a checker. -/
theorem rollCommand_mirrors {σ : Type} [Source σ] {e : Expr} {checker : Option Checker} {language : Language}
    {source after : σ} {r : RollResult} (rolled : rollCommand e checker true language source = (.ok r, after)) :
    ∃ o : ExprRoll, r.detail = some o ∧ o.rolled = e ∧
      rollCommand e checker true language (Watched.mk source []) =
        (.ok r, ⟨after, o.diceRolls.flatMap fun d => d.points.map fun point => ⟨d.dice.sides, point⟩⟩) ∧
      (∀ d ∈ o.diceRolls, (d.points.length : Int) = max d.dice.count 0 ∧
        d.value = d.dice.aggregate.apply d.points) ∧
      (∀ row ∈ o.rows, row.Consistent) ∧
      r.value = o.value ∧ r.checker = checker ∧ r.success = checker.map fun c => c.check r.value := by
  obtain ⟨o, yields, rfl, watched⟩ := rollCommand_watched rolled
  refine ⟨o, rfl, ExprRoll.rolled_eq yields, watched, ?_, ?_, rfl, rfl, rfl⟩
  · intro d hd
    have sound := ExprRoll.sound_of_mem yields d hd
    refine ⟨?_, sound.value⟩
    rw [sound.length]
    exact Int.ofNat_toNat _
  · intro row hrow
    obtain ⟨e', yields'⟩ := ExprRoll.exists_yields_of_mem_rows yields row hrow
    exact ExprRoll.consistent_of_yields yields'

/-- Two groups, a subtraction, and a dice term of a count below zero: the roll succeeds on three points, of which the
last is left, and is mirrored by its outcome. -/
theorem rollCommand_mirrors_nestedGroups :
    let e : Expr := .snoc (.snoc (.single (.number 3)) .sub
      (.group (.snoc (.single (.dice ⟨2, 6, .min⟩)) .mul (.group (.single (.dice ⟨-1, 4, .avg⟩)))))) .sub (.number 10)
    ∃ (r : RollResult) (o : ExprRoll), rollCommand e (some ⟨.lt, 0⟩) true .en ([5, -2, 7] : List Int) = (.ok r, [7]) ∧
      r.detail = some o ∧ o.rolled = e ∧ o.partials = [3, 3, -7] ∧ r.success = some true ∧
      ∀ row ∈ o.rows, row.Consistent := by
  intro e
  have rolled : rollCommand e (some ⟨.lt, 0⟩) true .en ([5, -2, 7] : List Int) = (.ok _, [7]) := rfl
  obtain ⟨o, hdetail, hrolled, -, -, consistent, -, -, hsuccess⟩ := rollCommand_mirrors rolled
  refine ⟨_, o, rolled, hdetail, hrolled, ?_, hsuccess, consistent⟩
  cases hdetail
  rfl

end DiceNotation
