import DiceNotation.Command
import DiceNotation.Proofs.Excess
import DiceNotation.Proofs.Roll.Drawing

/-!
# Rolls that take a fixed number of points

If every die of an expression has a side, a roll from preset points takes a number of them that the expression alone
decides: what it comes to depends on these points and on no others, and without so many it takes all of them and fails.

* `RollM.Takes`: a computation that takes so many points.
* `Expr.takes`: a row takes as many points as its dice terms roll dice.
* `Command.Slices`: a command each roll of which takes so many points.
* `Command.Slices.outcome`: what becomes of some rolls of such a command one after another.
-/

namespace DiceNotation

/-! ## Computations -/

/-- A computation takes so many points: it succeeds on any of them, whatever follows, and fails if there are fewer. -/
structure RollM.Takes {α : Type} (n : Nat) (x : RollM (List Int) α) : Prop where
  enough : ∀ points, points.length = n → ∃ a, ∀ more, x (points ++ more) = (.ok a, more)
  short : ∀ points, points.length < n → ∃ sides, x points = (.error (.exhausted sides), [])

namespace RollM.Takes

variable {α β : Type} {m n : Nat}

theorem pure (a : α) : Takes 0 (Pure.pure a) := by
  constructor
  · intro points h
    rw [List.length_eq_zero_iff.1 h]
    exact ⟨a, fun more => rfl⟩
  · intro points h
    exact absurd h (Nat.not_lt_zero _)

/-- Two computations one after the other take the points of both. -/
theorem bind {x : RollM (List Int) α} {f : α → RollM (List Int) β} (hx : Takes m x) (hf : ∀ a, Takes n (f a)) :
    Takes (m + n) (x >>= f) := by
  -- the first computation has the first points, and leaves the others
  have hfirst : ∀ points : List Int, m ≤ points.length →
      ∃ a, ∀ more, x (points ++ more) = (.ok a, points.drop m ++ more) := by
    intro points h
    obtain ⟨a, ha⟩ := hx.enough (points.take m) (by simp [h])
    refine ⟨a, fun more => ?_⟩
    rw [← ha (points.drop m ++ more), ← List.append_assoc, List.take_append_drop]
  constructor
  · intro points h
    obtain ⟨a, ha⟩ := hfirst points (by omega)
    obtain ⟨b, hb⟩ := (hf a).enough (points.drop m) (by simp [h])
    refine ⟨b, fun more => ?_⟩
    rw [Attempt.bind_apply, ha]
    exact hb more
  · intro points h
    rcases Nat.lt_or_ge points.length m with hlt | hge
    · obtain ⟨sides, hs⟩ := hx.short points hlt
      exact ⟨sides, by rw [Attempt.bind_apply, hs]⟩
    · obtain ⟨a, ha⟩ := hfirst points hge
      obtain ⟨sides, hs⟩ := (hf a).short (points.drop m) (by simp; omega)
      have hfirst := ha []
      rw [List.append_nil, List.append_nil] at hfirst
      refine ⟨sides, ?_⟩
      rw [Attempt.bind_apply, hfirst]
      exact hs

/-- What is made of a computation's outcome takes no more points. -/
theorem andThen {x : RollM (List Int) α} (hx : Takes n x) (f : α → β) : Takes n (x >>= fun a => Pure.pure (f a)) :=
  hx.bind fun a => .pure (f a)

end RollM.Takes

/-! ## Expressions -/

open RollM (Takes)

theorem drawPoint_takes (sides : Int) : Takes 1 (drawPoint sides : RollM (List Int) Int) := by
  constructor
  · intro points h
    obtain ⟨point, rfl⟩ := List.length_eq_one_iff.1 h
    exact ⟨point, fun more => rfl⟩
  · intro points h
    rw [List.length_eq_zero_iff.1 (Nat.lt_one_iff.1 h)]
    exact ⟨sides, rfl⟩

theorem drawPoints_takes (sides : Int) (n : Nat) : Takes n (drawPoints sides n : RollM (List Int) _) := by
  induction n with
  | zero => exact .pure []
  | succ n ih =>
    have both := (drawPoint_takes sides).bind fun point => ih.andThen (point :: ·)
    rw [Nat.add_comm] at both
    exact both

theorem Dice.takes {d : Dice} (h : 1 ≤ d.sides) : Takes d.rolls (d.roll : RollM (List Int) DiceRoll) := by
  rw [Dice.roll, if_neg (Int.not_lt.2 h)]
  exact (drawPoints_takes _ _).andThen _

mutual

theorem Item.takes : ∀ {item : Item}, (∀ leaf ∈ item.leaves, leaf.isTerm) → (∀ d ∈ item.diceTerms, 1 ≤ d.sides) →
    Takes (item.diceTerms.map Dice.rolls).sum (item.roll : RollM (List Int) ItemRoll)
  | .number n, _, _ => .pure _
  | .dice d, _, sides => (Dice.takes (sides d (List.mem_singleton_self d))).andThen _
  | .group e, known, sides => (Expr.takes known sides).andThen _
  | .unknown text, known, _ => by cases known _ (List.mem_singleton_self _)

/-- A row takes as many points as its dice terms roll dice. -/
theorem Expr.takes : ∀ {e : Expr}, e.Known → (∀ d ∈ e.dice, 1 ≤ d.sides) →
    Takes e.rolls (e.roll : RollM (List Int) ExprRoll)
  | .single item, known, sides => (Item.takes known sides).andThen _
  | .snoc before op item, known, sides => by
    obtain ⟨hbefore, hitem⟩ := List.forall_mem_append.1 known
    rw [Expr.dice_snoc] at sides
    obtain ⟨hsides, hsides'⟩ := List.forall_mem_append.1 sides
    rw [Expr.rolls, Expr.dice_snoc, List.map_append, List.sum_append]
    exact (Expr.takes hbefore hsides).bind fun o => (Item.takes hitem hsides').andThen _

end

/-! ## Commands -/

namespace Command

variable {c : Command} {n : Nat} {keepDetail : Bool} {language : Language}

/-- Each roll of a command takes so many points. It fails without them, and with them only if its value has too many
digits. -/
structure Slices (c : Command) (n : Nat) (keepDetail : Bool) (language : Language) : Prop where
  whole : ∀ slice, slice.length = n → ∃ r, (∀ e, r = .error e → e = .unwritable) ∧
    ∀ more, c.roll keepDetail language (slice ++ more : List Int) = (r, more)
  short : ∀ points : List Int, points.length < n →
    ∃ sides, c.roll keepDetail language points = (.error (.exhausted sides), [])

theorem slices (known : c.expr.Known) (sides : ∀ d ∈ c.expr.dice, 1 ≤ d.sides) (keepDetail : Bool)
    (language : Language) : c.Slices c.expr.rolls keepDetail language := by
  have row := Expr.takes known sides
  constructor
  · intro slice h
    obtain ⟨o, ho⟩ := row.enough slice h
    refine ⟨_, ?_, fun more => rollCommand_of_ok (ho more)⟩
    intro e he
    split at he
    · cases he
    · cases he
      rfl
  · intro points h
    obtain ⟨missing, hs⟩ := row.short points h
    exact ⟨missing, rollCommand_of_error hs⟩

namespace Slices

variable {points : List Int}

/-- The points a roll takes, and the others: the roll comes to what it comes to on the former alone. -/
theorem exists_of_le (h : c.Slices n keepDetail language) (hn : n ≤ points.length) :
    ∃ r, (∀ e, r = .error e → e = .unwritable) ∧ c.roll keepDetail language (points.take n) = (r, []) ∧
      c.roll keepDetail language points = (r, points.drop n) := by
  obtain ⟨r, hr, hroll⟩ := h.whole (points.take n) (by simp [hn])
  have hown := hroll []
  have hall := hroll (points.drop n)
  rw [List.append_nil] at hown
  rw [List.take_append_drop] at hall
  exact ⟨r, hr, hown, hall⟩

/-- Rolls of a command one after another take slice after slice. -/
structure Outcome (c : Command) (n : Nat) (keepDetail : Bool) (language : Language) (times : Nat) (points : List Int)
    (results : List RollResult) (failure : Option RollError) (left : List Int) : Prop where
  /-- A roll that succeeds comes to what it comes to on its slice alone. -/
  rolled : ∀ (i : Nat) (r : RollResult), results[i]? = some r →
    c.roll keepDetail language ((points.drop (i * n)).take n) = (.ok r, [])
  /-- The rolls go on until they are done, the points run out, or the value on a slice has too many digits. -/
  stopped : match failure with
    | none => results.length = times ∧ times * n ≤ points.length ∧ left = points.drop (times * n)
    | some (.exhausted _) => results.length = points.length / n ∧ points.length < times * n ∧ left = []
    | some .unwritable => results.length < times ∧ (results.length + 1) * n ≤ points.length ∧
        c.roll keepDetail language ((points.drop (results.length * n)).take n) = (.error .unwritable, []) ∧
        left = points.drop ((results.length + 1) * n)
    | some _ => False

/-- The slices behind the first one. -/
theorem drop_mul_drop (i : Nat) : (points.drop n).drop (i * n) = points.drop ((i + 1) * n) := by
  rw [List.drop_drop, Nat.succ_mul, Nat.add_comm]

/-- One more roll, ahead of the others. -/
theorem Outcome.cons {times : Nat} {r : RollResult} {results : List RollResult} {failure : Option RollError}
    {left : List Int} (hn : n ≤ points.length) (hfirst : c.roll keepDetail language (points.take n) = (.ok r, []))
    (h : Outcome c n keepDetail language times (points.drop n) results failure left) :
    Outcome c n keepDetail language (times + 1) points (r :: results) failure left := by
  obtain ⟨hrolled, hstopped⟩ := h
  constructor
  · intro i r' hr'
    cases i with
    | zero =>
      cases hr'
      simpa using hfirst
    | succ i =>
      rw [← drop_mul_drop]
      exact hrolled i r' hr'
  · have htimes : (times + 1) * n = times * n + n := Nat.succ_mul _ _
    cases failure with
    | none =>
      obtain ⟨hlen, hle, hleft⟩ := hstopped
      rw [List.length_drop] at hle
      refine ⟨congrArg (· + 1) hlen, by omega, ?_⟩
      rw [hleft, drop_mul_drop]
    | some e =>
      cases e with
      | exhausted sides =>
        obtain ⟨hlen, hlt, hleft⟩ := hstopped
        rw [List.length_drop] at hlen hlt
        have hpos : 0 < n := by
          rcases Nat.eq_zero_or_pos n with rfl | hpos
          · simp at hlt
          · exact hpos
        refine ⟨?_, by omega, hleft⟩
        rw [List.length_cons, hlen, Nat.div_eq_sub_div hpos hn]
      | unwritable =>
        obtain ⟨hlt, hle, hroll, hleft⟩ := hstopped
        rw [drop_mul_drop] at hroll hleft
        rw [List.length_drop] at hle
        have hlen : (results.length + 1 + 1) * n = (results.length + 1) * n + n := Nat.succ_mul _ _
        exact ⟨Nat.succ_lt_succ hlt, by rw [List.length_cons]; omega, hroll, hleft⟩
      | noSides | unknownItem => exact hstopped.elim

/-- **Some rolls one after another** take slice after slice of the points. -/
theorem outcome (h : c.Slices n keepDetail language) (times : Nat) (points : List Int) :
    let run := c.rollTimes keepDetail language times points
    Outcome c n keepDetail language times points run.1 run.2.1 run.2.2 := by
  induction times generalizing points with
  | zero => exact ⟨by simp [rollTimes], by simp [rollTimes]⟩
  | succ times ih =>
    have htimes : (times + 1) * n = times * n + n := Nat.succ_mul _ _
    rcases Nat.lt_or_ge points.length n with hlt | hge
    · obtain ⟨sides, hs⟩ := h.short points hlt
      simp only [rollTimes, hs]
      refine ⟨by simp, ?_, by omega, rfl⟩
      rw [Nat.div_eq_of_lt hlt]
      rfl
    · obtain ⟨r, hr, hown, hroll⟩ := h.exists_of_le hge
      simp only [rollTimes, hroll]
      cases r with
      | ok r => exact .cons hge hown (ih (points.drop n))
      | error e =>
        cases hr e rfl
        refine ⟨by simp, ?_, ?_, ?_, ?_⟩
        · exact Nat.succ_pos _
        · simpa using hge
        · simpa using hown
        · simp

/-- Rolls on some slices put together come to what they come to on each of them. -/
theorem rollTimes_flatten (h : c.Slices n keepDetail language) {result : List Int → RollResult}
    {blocks : List (List Int)}
    (hblocks : ∀ block ∈ blocks, block.length = n ∧ (c.roll keepDetail language block).1 = .ok (result block)) :
    c.rollTimes keepDetail language blocks.length blocks.flatten = (blocks.map result, none, []) := by
  induction blocks with
  | nil => rfl
  | cons block blocks ih =>
    obtain ⟨⟨hlen, hok⟩, hothers⟩ := List.forall_mem_cons.1 hblocks
    obtain ⟨r, -, hroll⟩ := h.whole block hlen
    have hown := hroll []
    rw [List.append_nil] at hown
    have hr : r = .ok (result block) := by rw [← hok, hown]
    simp only [List.length_cons, List.flatten_cons, rollTimes, hroll, hr, ih hothers, List.map_cons]

end Slices

end Command

end DiceNotation
