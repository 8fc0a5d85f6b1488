import DiceNotation.Proofs.Grammar.Decimal
import DiceNotation.Proofs.Roll.Outcome
import Mathlib.Algebra.Ring.Int.Defs

/-!
# What a roll draws

A row draws what its dice terms draw one after another, in source order and with groups of no account
(`Expr.diceRolls_roll`). From preset points the dice terms take consecutive segments (`share`); they stop at the first
term without a side, or earlier if the points run out.

* `demand`, `asks`: how many points some dice terms take, and of which dice.
* `rollTerms_of_le`, `rollTerms_of_lt`: what becomes of dice terms with enough points, and with too few.
* `rollCommand_draws`: what a roll from preset points draws and what comes of it.
-/

namespace DiceNotation

/-! ## Dice terms one after another -/

mutual

/-- The outcomes of the dice terms in an item's outcome. -/
def ItemRoll.diceRolls : ItemRoll → List DiceRoll
  | .dice d => [d]
  | .group e => e.diceRolls
  | _ => []

/-- The outcomes of the dice terms, those in groups included, in source order. -/
def ExprRoll.diceRolls : ExprRoll → List DiceRoll
  | .single item _ => item.diceRolls
  | .snoc before _ item _ => before.diceRolls ++ item.diceRolls

end

/-- Nothing in it is of no known kind. -/
def Expr.Known (e : Expr) : Prop :=
  ∀ item ∈ e.leaves, item.isTerm

section

variable {σ : Type} [Source σ]

/-- Roll some dice terms one after another. -/
def rollTerms (ds : List Dice) : RollM σ (List DiceRoll) :=
  ds.mapM Dice.roll

theorem rollTerms_append (ds ds' : List Dice) :
    (rollTerms (ds ++ ds') : RollM σ (List DiceRoll)) = do return (← rollTerms ds) ++ (← rollTerms ds') :=
  List.mapM_append

mutual

theorem Item.diceRolls_roll : ∀ item : Item, (∀ leaf ∈ item.leaves, leaf.isTerm) →
    (ItemRoll.diceRolls <$> item.roll : RollM σ _) = rollTerms item.diceTerms
  | .number _, _ => rfl
  | .dice d, _ => by
    show _ = [d].mapM Dice.roll
    simp [Item.roll, ItemRoll.diceRolls]
  | .group e, known => by
    rw [Item.diceTerms_group, ← Expr.diceRolls_roll e known]
    simp [Item.roll, ItemRoll.diceRolls]
  | .unknown text, known => by
    cases known _ (List.mem_singleton_self _)

/-- A row draws what its dice terms draw one after another. -/
theorem Expr.diceRolls_roll : ∀ e : Expr, e.Known →
    (ExprRoll.diceRolls <$> e.roll : RollM σ _) = rollTerms e.dice
  | .single item, known => by
    rw [Expr.dice_single, ← Item.diceRolls_roll item known]
    simp [Expr.roll, ExprRoll.diceRolls]
  | .snoc before op item, known => by
    obtain ⟨hbefore, hitem⟩ := List.forall_mem_append.1 known
    rw [Expr.dice_snoc, rollTerms_append, ← Expr.diceRolls_roll before hbefore, ← Item.diceRolls_roll item hitem]
    simp [Expr.roll, ExprRoll.diceRolls]

end

end

/-! ## Preset points -/

/-- A source with some points left that has given points of some dice. -/
def preset (points asked : List Int) : Recorded (List Int) :=
  ⟨points, asked.reverse⟩

section Preset

variable {points asked : List Int} {sides : Int} {d : Dice} {ds : List Dice}

@[simp] theorem asked_preset : (preset points asked).asked = asked :=
  List.reverse_reverse asked

theorem drawPoint_cons (point : Int) :
    drawPoint sides (preset (point :: points) asked) = (.ok point, preset points (asked ++ [sides])) := by
  simp [preset, drawPoint, Source.draw]

theorem drawPoint_nil :
    drawPoint sides (preset [] asked) = (.error (.exhausted sides), preset [] asked) := rfl

/-- Dice take the first points, if there are enough of them. -/
theorem drawPoints_of_le {n : Nat} (h : n ≤ points.length) :
    drawPoints sides n (preset points asked) =
      (.ok (points.take n), preset (points.drop n) (asked ++ List.replicate n sides)) := by
  induction n generalizing points asked with
  | zero => simp [drawPoints, Attempt.pure_apply]
  | succ n ih =>
    cases points with
    | nil => exact absurd h (Nat.not_succ_le_zero n)
    | cons point points =>
      have hle : n ≤ points.length := Nat.le_of_succ_le_succ h
      simp only [drawPoints, Attempt.bind_apply, drawPoint_cons, ih hle, Attempt.pure_apply]
      simp [List.replicate_succ]

/-- If there are too few, all of them are taken. -/
theorem drawPoints_of_lt {n : Nat} (h : points.length < n) :
    drawPoints sides n (preset points asked) =
      (.error (.exhausted sides), preset [] (asked ++ List.replicate points.length sides)) := by
  induction n generalizing points asked with
  | zero => exact absurd h (Nat.not_lt_zero _)
  | succ n ih =>
    cases points with
    | nil => simp [drawPoints, Attempt.bind_apply, drawPoint_nil]
    | cons point points =>
      have hlt : points.length < n := Nat.lt_of_succ_lt_succ h
      simp only [drawPoints, Attempt.bind_apply, drawPoint_cons, ih hlt]
      simp [List.replicate_succ]

theorem roll_of_noSides (h : d.sides < 1) :
    d.roll (preset points asked) = (.error (.ofSides d.sides), preset points asked) := by
  rw [Dice.roll, if_pos h]
  rfl

/-- A dice term with a side takes the first points, if there are enough of them. -/
theorem roll_of_le (hd : 1 ≤ d.sides) (h : d.rolls ≤ points.length) :
    d.roll (preset points asked) = (.ok ⟨d, points.take d.rolls, d.aggregate.apply (points.take d.rolls)⟩,
      preset (points.drop d.rolls) (asked ++ List.replicate d.rolls d.sides)) := by
  rw [Dice.roll, if_neg (Int.not_lt.2 hd), Attempt.bind_apply, drawPoints_of_le h]
  rfl

theorem roll_of_lt (hd : 1 ≤ d.sides) (h : points.length < d.rolls) :
    d.roll (preset points asked) =
      (.error (.exhausted d.sides), preset [] (asked ++ List.replicate points.length d.sides)) := by
  rw [Dice.roll, if_neg (Int.not_lt.2 hd), Attempt.bind_apply, drawPoints_of_lt h]

/-! ### Dice terms -/

/-- How many points some dice terms take, up to the first one without a side. -/
def demand (ds : List Dice) : Nat :=
  ((ds.takeWhile (1 ≤ ·.sides)).map Dice.rolls).sum

/-- The dice that some dice terms roll, each by its sides. -/
def asks (ds : List Dice) : List Int :=
  ds.flatMap fun d => List.replicate d.rolls d.sides

/-- The outcomes of some dice terms that take consecutive segments of some points. -/
def share : List Dice → List Int → List DiceRoll
  | [], _ => []
  | d :: ds, points =>
    ⟨d, points.take d.rolls, d.aggregate.apply (points.take d.rolls)⟩ :: share ds (points.drop d.rolls)

@[simp] theorem demand_cons_of_noSides (h : d.sides < 1) : demand (d :: ds) = 0 := by
  simp [demand, Int.not_le.2 h]

@[simp] theorem demand_cons (h : 1 ≤ d.sides) : demand (d :: ds) = d.rolls + demand ds := by
  simp [demand, h]

@[simp] theorem asks_cons : asks (d :: ds) = List.replicate d.rolls d.sides ++ asks ds := rfl

/-- No more points are taken than there are dice. -/
theorem demand_le_length_asks (ds : List Dice) : demand ds ≤ (asks ds).length := by
  induction ds with
  | nil => exact Nat.le_refl _
  | cons d ds ih =>
    rw [asks_cons, List.length_append, List.length_replicate]
    rcases Int.lt_or_le d.sides 1 with hd | hd
    · rw [demand_cons_of_noSides hd]
      exact Nat.zero_le _
    · rw [demand_cons hd]
      omega

theorem rollTerms_cons : (rollTerms (d :: ds) : RollM (Recorded (List Int)) _) = do
    let r ← d.roll
    return r :: (← rollTerms ds) :=
  List.mapM_cons

/-- With enough points, dice terms share them out up to the first one without a side. -/
theorem rollTerms_of_le (asked : List Int) (h : demand ds ≤ points.length) :
    rollTerms ds (preset points asked) =
      (match ds.find? (·.sides < 1) with
        | some d => .error (.ofSides d.sides)
        | none => .ok (share ds points),
      preset (points.drop (demand ds)) (asked ++ (asks ds).take (demand ds))) := by
  induction ds generalizing points asked with
  | nil => simp [rollTerms, Attempt.pure_apply, share, demand]
  | cons d ds ih =>
    rw [rollTerms_cons, Attempt.bind_apply, List.find?_cons]
    rcases Int.lt_or_le d.sides 1 with hd | hd
    · rw [roll_of_noSides hd, demand_cons_of_noSides hd]
      simp [hd]
    · rw [demand_cons hd] at h ⊢
      have hle : demand ds ≤ (points.drop d.rolls).length := by
        rw [List.length_drop]
        omega
      rw [roll_of_le hd (by omega)]
      simp only [Attempt.bind_apply, ih _ hle, Attempt.pure_apply]
      cases ds.find? (·.sides < 1) <;> simp [Int.not_lt.2 hd, share, List.take_append]

/-- With too few points, dice terms take all of them and ask for one more. -/
theorem rollTerms_of_lt (asked : List Int) (h : points.length < demand ds) :
    ∃ sides, (asks ds)[points.length]? = some sides ∧ rollTerms ds (preset points asked) =
      (.error (.exhausted sides), preset [] (asked ++ (asks ds).take points.length)) := by
  induction ds generalizing points asked with
  | nil => exact absurd h (Nat.not_lt_zero _)
  | cons d ds ih =>
    have hd : 1 ≤ d.sides := by
      refine Int.not_lt.1 fun hd => ?_
      rw [demand_cons_of_noSides hd] at h
      exact Nat.not_lt_zero _ h
    rw [demand_cons hd] at h
    rw [rollTerms_cons, Attempt.bind_apply, asks_cons, List.take_append, List.take_replicate, List.length_replicate]
    rcases Nat.lt_or_ge points.length d.rolls with hlt | hle
    · -- the points run out within this term
      refine ⟨d.sides, ?_, ?_⟩
      · rw [List.getElem?_append_left (by simpa using hlt), List.getElem?_replicate, if_pos hlt]
      · rw [roll_of_lt hd hlt, Nat.min_eq_left (Nat.le_of_lt hlt), Nat.sub_eq_zero_of_le (Nat.le_of_lt hlt)]
        simp
    · have hlt : (points.drop d.rolls).length < demand ds := by
        rw [List.length_drop]
        omega
      obtain ⟨sides, hsides, hroll⟩ := ih (asked ++ List.replicate d.rolls d.sides) hlt
      rw [List.length_drop] at hsides hroll
      refine ⟨sides, ?_, ?_⟩
      · rw [List.getElem?_append_right (by simpa using hle), List.length_replicate]
        exact hsides
      · rw [roll_of_le hd hle]
        simp only [Attempt.bind_apply, hroll]
        rw [Nat.min_eq_right hle, List.append_assoc]

end Preset

/-! ## Commands -/

section Command

variable {e : Expr} {points : List Int} (checker : Option Checker) (keepDetail : Bool) (language : Language)

theorem rollCommand_exhausted (known : e.Known) (h : points.length < demand e.dice) :
    ∃ sides, (asks e.dice)[points.length]? = some sides ∧
      rollCommand e checker keepDetail language (preset points []) =
        (.error (.exhausted sides), preset [] ((asks e.dice).take points.length)) := by
  obtain ⟨sides, hsides, hroll⟩ := rollTerms_of_lt [] h
  exact ⟨sides, hsides, rollCommand_of_error (Attempt.eq_error_of_map (Expr.diceRolls_roll e known) hroll)⟩

theorem rollCommand_noSides (known : e.Known) (h : demand e.dice ≤ points.length) {d : Dice}
    (hfind : e.dice.find? (·.sides < 1) = some d) :
    rollCommand e checker keepDetail language (preset points []) =
      (.error (.ofSides d.sides), preset (points.drop (demand e.dice)) ((asks e.dice).take (demand e.dice))) := by
  have hroll := rollTerms_of_le [] h
  rw [hfind] at hroll
  exact rollCommand_of_error (Attempt.eq_error_of_map (Expr.diceRolls_roll e known) hroll)

/-- With enough points and sides, the row has an outcome, and the command succeeds if the value can be written. -/
theorem rollCommand_outcome (known : e.Known) (h : demand e.dice ≤ points.length)
    (hfind : e.dice.find? (·.sides < 1) = none) :
    ∃ outcome : ExprRoll, e.Yields outcome ∧ outcome.diceRolls = share e.dice points ∧
      rollCommand e checker keepDetail language (preset points []) =
        (if Writable outcome.value then .ok (outcome.result checker keepDetail language) else .error .unwritable,
          preset (points.drop (demand e.dice)) ((asks e.dice).take (demand e.dice))) := by
  have hroll := rollTerms_of_le [] h
  rw [hfind] at hroll
  obtain ⟨outcome, hshare, hok⟩ := Attempt.eq_ok_of_map (Expr.diceRolls_roll e known) hroll
  exact ⟨outcome, Expr.yields_of_roll hok, hshare, rollCommand_of_ok hok⟩

end Command

/-- The dice that a roll asked its source for, in order: those that a point was given of, and the one that there was no
point for. -/
def calls {α : Type} (run : Except RollError α × Recorded (List Int)) : List Int :=
  run.2.asked ++
    match run.1 with
    | .error (.exhausted sides) => [sides]
    | _ => []

theorem calls_preset {α : Type} {r : Except RollError α} (h : ∀ sides, r ≠ .error (.exhausted sides))
    (points asked : List Int) : calls (r, preset points asked) = asked := by
  rw [calls, asked_preset]
  cases r with
  | ok _ => exact List.append_nil asked
  | error err =>
    cases err with
    | exhausted sides => exact absurd rfl (h sides)
    | noSides | unknownItem | unwritable => exact List.append_nil asked

/-- A die without a side is no die that there was no point for. -/
theorem RollError.ofSides_ne_exhausted (sides sides' : Int) : ofSides sides ≠ .exhausted sides' := by
  unfold ofSides
  split <;> nofun

/-- **A roll from preset points draws for its dice terms in source order and stops at the first thing that goes wrong.**
If the points do not last up to the first dice term without a side, all of them are drawn. Otherwise just as many are
drawn as the terms before it ask for. Then that term is reported with its sides, unless these have too many digits; or without
such a term the row has an outcome, in which the dice terms have consecutive segments of the points, and the roll succeeds
unless the value has too many digits. In any case the dice asked for are the first of those that the dice terms ask for. -/
theorem rollCommand_draws {e : Expr} (known : e.Known) (checker : Option Checker) (keepDetail : Bool)
    (language : Language) (points : List Int) :
    let run := rollCommand e checker keepDetail language (Recorded.mk points [])
    calls run <+: asks e.dice ∧
      if points.length < demand e.dice then
        (∃ sides, run.1 = .error (.exhausted sides)) ∧ run.2.source = [] ∧ run.2.asked.length = points.length
      else
        run.2.source = points.drop (demand e.dice) ∧ run.2.asked.length = demand e.dice ∧
          match e.dice.find? (·.sides < 1) with
          | some d => run.1 = .error (if Writable d.sides then .noSides d.sides else .unwritable)
          | none => ∃ outcome : ExprRoll, e.Yields outcome ∧ outcome.diceRolls = share e.dice points ∧
              run.1 = if Writable outcome.value then .ok (outcome.result checker keepDetail language)
                else .error .unwritable := by
  intro run
  have hshort : ∀ n, (asks e.dice).take n <+: asks e.dice := fun n => List.take_prefix n _
  have hlen : ∀ n ≤ demand e.dice, ((asks e.dice).take n).length = n := by
    intro n hn
    rw [List.length_take, Nat.min_eq_left (Nat.le_trans hn (demand_le_length_asks e.dice))]
  by_cases hlt : points.length < demand e.dice
  · rw [if_pos hlt]
    obtain ⟨sides, hsides, hrun⟩ := rollCommand_exhausted checker keepDetail language known hlt
    have hcalls : (asks e.dice).take points.length ++ [sides] = (asks e.dice).take (points.length + 1) := by
      rw [List.take_add_one, hsides]
      rfl
    rw [show run = _ from hrun]
    refine ⟨?_, ⟨sides, rfl⟩, rfl, ?_⟩
    · rw [calls, asked_preset, hcalls]
      exact hshort _
    · rw [asked_preset, hlen _ (Nat.le_of_lt hlt)]
  · rw [if_neg hlt]
    cases hfind : e.dice.find? (·.sides < 1) with
    | some d =>
      have hrun := rollCommand_noSides checker keepDetail language known (Nat.not_lt.1 hlt) hfind
      have hdrawn : ∀ sides, (.error (.ofSides d.sides) : Except RollError RollResult) ≠ .error (.exhausted sides) :=
        fun sides h => RollError.ofSides_ne_exhausted _ sides (Except.error.inj h)
      rw [show run = _ from hrun, calls_preset hdrawn, asked_preset]
      exact ⟨hshort _, rfl, hlen _ (Nat.le_refl _), rfl⟩
    | none =>
      obtain ⟨outcome, yields, hshare, hrun⟩ :=
        rollCommand_outcome checker keepDetail language known (Nat.not_lt.1 hlt) hfind
      have hdrawn : ∀ sides, (if Writable outcome.value then .ok (outcome.result checker keepDetail language)
          else .error .unwritable : Except RollError RollResult) ≠ .error (.exhausted sides) := by
        intro sides
        split <;> nofun
      rw [show run = _ from hrun, calls_preset hdrawn, asked_preset]
      exact ⟨hshort _, rfl, hlen _ (Nat.le_refl _), outcome, yields, hshare, rfl⟩

/-- The second term of the group has no side: the terms before it take two points, one of a count below zero takes none,
and the last point is left. -/
theorem rollCommand_draws_twoPoints :
    let e : Expr := .snoc (.single (.dice ⟨2, 6, .sum⟩)) .add
      (.group (.snoc (.snoc (.single (.dice ⟨-3, 4, .max⟩)) .mul (.dice ⟨0, 0, .min⟩)) .sub (.dice ⟨1, 8, .sum⟩)))
    let run := rollCommand e none true .en (Recorded.mk ([5, -7, 9] : List Int) [])
    e.Known ∧ run.1 = .error (.noSides 0) ∧ run.2.source = [9] := by
  intro e run
  have known : e.Known := by
    show ∀ item ∈ e.leaves, item.isTerm
    decide
  obtain ⟨-, hrun⟩ := rollCommand_draws known none true .en [5, -7, 9]
  rw [if_neg (by decide)] at hrun
  obtain ⟨hleft, -, hstop⟩ := hrun
  exact ⟨known, hstop, hleft⟩

/-- A power of ten with as many digits as can be written, times a die that shows a ten: there are enough points and every
die has a side, yet the roll fails. -/
theorem rollCommand_unwritable :
    let e : Expr := .snoc (.single (.number (10 ^ (maxDigits - 1)))) .mul (.dice ⟨1, 10, .sum⟩)
    e.Known ∧ demand e.dice = 1 ∧ e.dice.find? (·.sides < 1) = none ∧
      rollCommand e none true .en (Recorded.mk ([10] : List Int) []) = (.error .unwritable, ⟨[], [10]⟩) := by
  obtain ⟨k, hk⟩ : ∃ k, maxDigits = k + 1 := ⟨4299, rfl⟩
  have hlong : ¬Writable (10 ^ k * 10) := by
    rw [writable_iff, ← Int.pow_succ, Int.natAbs_pow, hk]
    exact Nat.lt_irrefl _
  rw [hk, Nat.add_sub_cancel]
  obtain ⟨n, hn⟩ : ∃ n : Int, 10 ^ k = n := ⟨_, rfl⟩
  rw [hn] at hlong ⊢
  refine ⟨?_, rfl, rfl, ?_⟩
  · simp [Expr.Known, Expr.leaves, Item.leaves, Item.isTerm]
  · let outcome : ExprRoll := .snoc (.single (.number n) n) .mul (.dice ⟨⟨1, 10, .sum⟩, [10], 10⟩) (n * 10)
    have hroll : Expr.roll (.snoc (.single (.number n)) .mul (.dice ⟨1, 10, .sum⟩)) (Recorded.mk ([10] : List Int) []) =
        (.ok outcome, ⟨[], [10]⟩) := rfl
    rw [rollCommand_of_ok hroll, ExprRoll.value, if_neg hlong]

end DiceNotation
