import DiceNotation.Proofs.Reading.Acceptance
import DiceNotation.Proofs.Roll.Watching
import DiceNotation.Record

/-!
# Counts of a command

What is counted while a command is read, what its tree holds and what its rolls draw are the same.

* `diceShown`: the dice terms in a sequence of tokens, from left to right.
* `Sentence.dice_eq`: the dice terms of a tree are those that the tokens of its sentence show.
* `length_asks`: how many points some dice terms ask for.
* `writable_of_read_record`: the numbers in the record of a reading can be written.
* `compile_counts`: the counts of a command, in its record, in its tree and in its rolls.
-/

namespace DiceNotation

/-! ## Dice terms among tokens -/

/-- The dice terms in a sequence of tokens, from left to right: a count, the letter, the sides and perhaps a word. -/
def diceShown : List Token → List Dice
  | .numeral count :: .diceLetter :: .numeral sides :: .word a :: ts =>
    ⟨count.value, sides.value, a⟩ :: diceShown ts
  | .numeral count :: .diceLetter :: .numeral sides :: ts => ⟨count.value, sides.value, .sum⟩ :: diceShown ts
  | _ :: ts => diceShown ts
  | [] => []

/-- Tokens that may stand behind an item. -/
def Followed (us : List Token) : Prop :=
  ∀ t ∈ us.head?, t.follows = true

section

variable {us : List Token}

theorem followed_nil : Followed [] := nofun

theorem followed_cons {t : Token} (h : t.follows = true) : Followed (t :: us) := by
  intro t' ht'
  cases ht'
  exact h

/-- Behind a number no dice letter stands. -/
theorem diceShown_number (n : Numeral) (h : Followed us) : diceShown (.numeral n :: us) = diceShown us := by
  cases us with
  | nil => rfl
  | cons t us =>
    have ht := h t rfl
    cases t with
    | operator | closing | compare => rfl
    | numeral | diceLetter | word | opening => cases ht

/-- Behind a dice term no further word stands. -/
theorem diceShown_dice (count sides : Numeral) (h : Followed us) :
    diceShown (.numeral count :: .diceLetter :: .numeral sides :: us) =
      ⟨count.value, sides.value, .sum⟩ :: diceShown us := by
  cases us with
  | nil => rfl
  | cons t us =>
    have ht := h t rfl
    cases t with
    | operator | closing | compare => rfl
    | numeral | diceLetter | word | opening => cases ht

end

-- A numeral in front of a dice letter would be shown as a dice term, so it matters what stands behind an item.

mutual

theorem ItemOf.diceShown_append : ∀ {ts : List Token} {item : Item}, ItemOf ts item → ∀ {us : List Token},
    Followed us → diceShown (ts ++ us) = item.diceTerms ++ diceShown us
  | _, _, .number n, _, h => diceShown_number n h
  | _, _, .dice count sides, _, h => diceShown_dice count sides h
  | _, _, .diceWith _ _ _, _, _ => rfl
  | _, _, @ItemOf.group ts e inner, us, h => by
    have hclosing : Followed (.closing :: us) := followed_cons rfl
    have hinner := ExprOf.diceShown_append inner hclosing
    rw [List.cons_append, List.append_assoc]
    exact hinner

/-- The tokens of an expression show its dice terms, and then those behind it are shown. -/
theorem ExprOf.diceShown_append : ∀ {ts : List Token} {e : Expr}, ExprOf ts e → ∀ {us : List Token},
    Followed us → diceShown (ts ++ us) = e.dice ++ diceShown us
  | _, _, .single only, _, h => ItemOf.diceShown_append only h
  | _, _, @ExprOf.snoc ts vs before item op row last, us, h => by
    have hoperator : Followed (.operator op :: (vs ++ us)) := followed_cons rfl
    have hlast := ItemOf.diceShown_append last h
    have hrow := ExprOf.diceShown_append row hoperator
    rw [List.append_assoc, List.cons_append, hrow, Expr.dice_snoc, List.append_assoc]
    exact congrArg (before.dice ++ ·) hlast

end

/-- The dice terms of a tree are those that the tokens of its sentence show, from left to right. -/
theorem Sentence.dice_eq {ts : List Token} {cs : List Char} {e : Expr} {checker : Option Checker}
    (h : Sentence ts cs e checker) : e.dice = diceShown ts := by
  cases h.tree with
  | bare row =>
    have hrow := row.diceShown_append followed_nil
    rw [List.append_nil] at hrow
    rw [hrow]
    exact (List.append_nil _).symm
  | checked row c target =>
    rw [row.diceShown_append (followed_cons rfl)]
    exact (List.append_nil _).symm

/-! ## Points that are asked for -/

/-- Some dice terms ask for as many points as they roll dice. -/
theorem length_asks (ds : List Dice) : (asks ds).length = (ds.map Dice.rolls).sum := by
  induction ds with
  | nil => rfl
  | cons d ds ih =>
    rw [asks_cons, List.length_append, List.length_replicate, ih, List.map_cons, List.sum_cons]

/-- Every point is asked of a die of one of the terms. -/
theorem exists_dice_of_mem_asks {ds : List Dice} {sides : Int} (h : sides ∈ asks ds) : ∃ d ∈ ds, d.sides = sides := by
  obtain ⟨d, hd, hsides⟩ := List.mem_flatMap.1 h
  exact ⟨d, hd, (List.eq_of_mem_replicate hsides).symm⟩

/-- The dice terms of an outcome have a side. -/
theorem Expr.Yields.one_le_sides {e : Expr} {o : ExprRoll} (h : e.Yields o) : ∀ d ∈ e.dice, 1 ≤ d.sides := by
  intro d hd
  rw [← ExprRoll.dice_diceRolls h] at hd
  obtain ⟨r, hr, rfl⟩ := List.mem_map.1 hd
  exact (ExprRoll.sound_of_mem h r hr).sides

/-! ## Numbers in a record -/

mutual

theorem ItemOf.leaves_le : ∀ {ts : List Token} {item : Item}, ItemOf ts item → item.leaves.length ≤ ts.length
  | _, _, .number _ => Nat.le_refl 1
  | _, _, .dice _ _ => show 1 ≤ 3 by decide
  | _, _, .diceWith _ _ _ => show 1 ≤ 4 by decide
  | _, _, .group inner => by
    have hinner := ExprOf.leaves_le inner
    simp only [List.length_cons, List.length_append]
    exact Nat.le_succ_of_le (Nat.le_succ_of_le hinner)

/-- An expression has no more items than tokens. -/
theorem ExprOf.leaves_le : ∀ {ts : List Token} {e : Expr}, ExprOf ts e → e.leaves.length ≤ ts.length
  | _, _, .single only => ItemOf.leaves_le only
  | _, _, .snoc _ row last => by
    have hrow := ExprOf.leaves_le row
    have hlast := ItemOf.leaves_le last
    simp only [Expr.leaves, List.length_append, List.length_cons]
    omega

end

theorem Sentence.itemCount_le {ts : List Token} {cs : List Char} {e : Expr} {checker : Option Checker}
    (h : Sentence ts cs e checker) : e.itemCount ≤ cs.length := by
  obtain ⟨g, -, layout⟩ := h.text
  have htokens : e.leaves.length ≤ ts.length := by
    cases h.tree with
    | bare row => exact row.leaves_le
    | checked row c target => exact Nat.le_trans row.leaves_le (by simp)
  calc e.itemCount ≤ e.leaves.length := List.countP_le_length
    _ ≤ ts.length := htokens
    _ ≤ cs.length := Nat.le_trans (Nat.le_add_right _ _) layout.length_le

/-- Every number in the record of a reading can be written, if the number of characters can be. -/
theorem writable_of_read_record {L : Limits} {text : String} {r : Reading} (h : read L text = .ok r)
    (length : Writable text.length) : Writable r.items ∧ Writable r.rolls ∧ ∀ c ∈ r.checker, Writable c.target := by
  obtain ⟨ts, sentence, short, -, hitems, -⟩ := sentence_of_read h
  obtain ⟨g, -, layout⟩ := sentence.text
  refine ⟨length.of_natAbs_le ?_, (readChars_of_read h).2, sentence.tree.written_target (layout.written short)⟩
  rw [hitems, Int.natAbs_natCast, Int.natAbs_natCast, ← String.length_toList]
  exact sentence.itemCount_le

/-! ## Commands -/

theorem read_of_compile {L : Limits} {text : String} {c : Command} (h : Command.compile L text = .ok c) :
    c.source = text ∧ read L text = .ok c.reading := by
  unfold Command.compile at h
  cases hr : read L text with
  | error err => rw [hr] at h; cases h
  | ok reading =>
    rw [hr] at h
    cases h
    exact ⟨rfl, rfl⟩

/-- **The counts of a command agree.** Let a text be compiled under some bounds.

* The record of its reading gives the number of its numbers and dice terms, and of the dice that the terms roll.
* The reading ends with these counts.
* The dice terms are those that the text shows, from left to right, those in parentheses included.
* A roll that succeeds, from whatever source, draws one point after the other for these terms, so many in all as have
  been counted, and not more than the bound on rolled dice; every die has a side, and not more sides than the bound. -/
theorem compile_counts {L : Limits} {text : String} {c : Command} (compiled : Command.compile L text = .ok c) :
    (∃ note ∈ c.records, note.message = "Parsed '" ++ text ++ "': " ++ toString c.expr.itemCount ++ " items, " ++
      toString (c.expr.dice.map fun d => d.count.toNat).sum ++ " roll times, checker=" ++ Checker.noted c.checker) ∧
    (c.reading.items = c.expr.itemCount ∧ c.reading.rolls = (c.expr.dice.map fun d => d.count.toNat).sum) ∧
    (∃ ts, Sentence ts text.toList c.expr c.checker ∧ c.expr.dice = diceShown ts) ∧
    ∀ (σ : Type) [Source σ] (keepDetail : Bool) (language : Language) (source after : σ) (r : RollResult),
      c.roll keepDetail language source = (.ok r, after) → ∃ draws : List Draw,
        c.roll keepDetail language (Watched.mk source []) = (.ok r, ⟨after, draws⟩) ∧
        draws.map Draw.sides = (c.expr.dice.flatMap fun d => List.replicate d.count.toNat d.sides) ∧
        draws.length = c.reading.rolls ∧ draws.length ≤ L.rolls ∧ ∀ d ∈ draws, 1 ≤ d.sides ∧ d.sides ≤ L.sides := by
  obtain ⟨rfl, accepted⟩ := read_of_compile compiled
  obtain ⟨ts, sentence, -, within, hitems, hrolls⟩ := sentence_of_read accepted
  refine ⟨⟨_, List.mem_cons_self, ?_⟩, ⟨hitems, hrolls⟩, ⟨ts, sentence, sentence.dice_eq⟩, ?_⟩
  · dsimp only [Record.message]
    rw [hitems, hrolls]
    rfl
  · intro σ _ keepDetail language source after r rolled
    obtain ⟨o, yields, -, watched⟩ := rollCommand_watched rolled
    have hsides := ExprRoll.sides_draws yields
    have hlen : o.draws.length = c.reading.rolls := by
      rw [← List.length_map Draw.sides, hsides, length_asks, hrolls]
      rfl
    refine ⟨o.draws, watched, hsides, hlen, ?_, ?_⟩
    · rw [hlen, hrolls]
      exact within.rolls
    · intro d hd
      have hasked : d.sides ∈ asks c.expr.dice := hsides ▸ List.mem_map_of_mem hd
      obtain ⟨dice, hdice, hd⟩ := exists_dice_of_mem_asks hasked
      rw [← hd]
      exact ⟨yields.one_le_sides dice hdice, within.sides dice hdice⟩

/-- Of three dice terms one is in a group and one rolls no dice: four items, three rolled dice, and the points are drawn
in the order of the terms. -/
theorem compile_counts_nestedTerm :
    let c : Command := ⟨"2d6 - (1 + 1 d 4Max) x -3d8 > 5", ⟨.snoc (.snoc (.single (.dice ⟨2, 6, .sum⟩)) .sub
      (.group (.snoc (.single (.number 1)) .add (.dice ⟨1, 4, .max⟩)))) .mul (.dice ⟨-3, 8, .sum⟩),
      some ⟨.gt, 5⟩, 4, 3⟩⟩
    Command.compile .standard "2d6 - (1 + 1 d 4Max) x -3d8 > 5" = .ok c ∧
      (∃ r, c.roll false .en ([6, 1, 3, 9] : List Int) = (.ok r, [9])) ∧ ∃ draws : List Draw,
        draws.map Draw.sides = [6, 6, 4] ∧ draws.length = c.reading.rolls := by
  intro c
  have compiled : Command.compile .standard "2d6 - (1 + 1 d 4Max) x -3d8 > 5" = .ok c := by decide +kernel
  have rolled : c.roll false .en ([6, 1, 3, 9] : List Int) = (.ok _, [9]) := rfl
  obtain ⟨-, -, -, draws⟩ := compile_counts compiled
  obtain ⟨draws, -, hsides, hlen, -, -⟩ := draws _ _ _ _ _ _ rolled
  exact ⟨compiled, ⟨_, rolled⟩, draws, hsides, hlen⟩

end DiceNotation
