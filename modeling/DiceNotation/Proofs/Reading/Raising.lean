import DiceNotation.Proofs.Reading.Continuation

/-!
# Raised bounds

Reading looks at a bound only to refuse what exceeds it. So two readings of one text, under lower bounds and under higher
ones, do the same until the lower ones are exceeded, and the error of a text that exceeds none is the same under both.

There is one way to refuse a text for a bound that is not reported as such: the total of rolled dice in the report may have
too many digits to be written. Under bounds that allow this total, reading goes on.

* `Agrees`: two computations that come to the same unless the first one exceeds a bound.
* `Agrees.bind`, `agrees_ite`: one after another, and behind a check of a bound.
* `readExpr_agrees`, `readChars_agrees`: rows and whole texts agree under lower and higher bounds.
* `read_of_raised`: raised bounds change nothing but limit errors, unless a total cannot be written.
* `read_raised_openTotal`: a text for which they do.
-/

namespace DiceNotation

/-- A computation under some bounds and one under higher bounds that come to the same. Otherwise the first one exceeds a
bound, or it stops at a total of rolled dice that exceeds its bound, is within the higher one and cannot be written. -/
inductive Agrees (L L' : Limits) {α : Type} : Except Stop α → Except Stop α → Prop
  | same (x : Except Stop α) : Agrees L L' x x
  | overLimit (e : LimitError) (y : Except Stop α) : Agrees L L' (.error (.overLimit e)) y
  | unwritten {total : Nat} (exceeds : L.rolls < total) (allowed : total ≤ L'.rolls) (long : ¬Writable total)
      (y : Except Stop α) : Agrees L L' (.error (.digits .write)) y

section Agrees

variable {L L' : Limits} {α β : Type}

theorem Agrees.bind {x y : Except Stop α} {f g : α → Except Stop β} (hx : Agrees L L' x y)
    (hf : ∀ a, Agrees L L' (f a) (g a)) : Agrees L L' (x >>= f) (y >>= g) := by
  cases hx with
  | same x =>
    cases x with
    | error stop => exact .same (.error stop)
    | ok a => exact hf a
  | overLimit e y => exact .overLimit e _
  | unwritten exceeds allowed long y => exact .unwritten exceeds allowed long _

/-- A check that is passed under the higher bound whenever it is under the lower one. -/
theorem agrees_ite {p q : Prop} [Decidable p] [Decidable q] (hpq : p → q) {x y : Except Stop α} (hx : Agrees L L' x y)
    (e : LimitError) (z : Except Stop α) :
    Agrees L L' (if p then x else .error (.overLimit e)) (if q then y else z) := by
  by_cases hp : p
  · rw [if_pos hp, if_pos (hpq hp)]
    exact hx
  · rw [if_neg hp]
    exact .overLimit e _

end Agrees

section Readers

variable {L L' : Limits} (raised : ∀ l, (L.get l : Nat) ≤ L'.get l)
include raised

theorem checkNumber_agrees (n : Int) : Agrees L L' (L.checkNumber n) (L'.checkNumber n) :=
  agrees_ite (fun h => Nat.le_trans h (raised .number)) (.same _) _ _

namespace Cursor

/-! ## Counts -/

theorem countItem_agrees (c : Cursor) : Agrees L L' (c.countItem L) (c.countItem L') :=
  agrees_ite (fun h => Nat.le_trans h (raised .itemCount)) (.same _) _ _

theorem enter_agrees (c : Cursor) : Agrees L L' (c.enter L) (c.enter L') :=
  agrees_ite (fun h => Nat.le_trans h (raised .depth)) (.same _) _ _

/-- A total that only the higher bound allows is reported as exceeded, unless it cannot be written. -/
theorem countRolls_agrees (d : Dice) (c : Cursor) : Agrees L L' (c.countRolls L d) (c.countRolls L' d) := by
  by_cases hlow : c.rolls + d.rolls ≤ L.rolls
  · have hhigh : c.rolls + d.rolls ≤ L'.rolls := Nat.le_trans hlow (raised .rolls)
    simp only [countRolls, if_pos hlow, if_pos hhigh]
    exact .same _
  · by_cases hwritable : Writable (c.rolls + d.rolls : Nat)
    · simp only [countRolls, if_neg hlow, if_pos hwritable]
      exact .overLimit _ _
    · by_cases hhigh : c.rolls + d.rolls ≤ L'.rolls
      · simp only [countRolls, if_neg hlow, if_neg hwritable]
        exact .unwritten (Nat.not_le.1 hlow) hhigh hwritable _
      · simp only [countRolls, if_neg hlow, if_neg hhigh, if_neg hwritable]
        exact .same _

/-! ## Items, rows and checkers -/

theorem readDice_agrees (count sides : Numeral) (a : Aggregate) (c : Cursor) :
    Agrees L L' (readDice L count sides a c) (readDice L' count sides a c) := by
  refine Agrees.bind (.same _) fun count => Agrees.bind (.same _) fun sides => ?_
  refine (countItem_agrees raised c).bind fun c => ?_
  refine agrees_ite (fun h => Int.le_trans h (Int.ofNat_le.2 (raised .sides))) ?_ _ _
  exact (countRolls_agrees raised _ c).bind fun c => .same _

theorem readNumber_agrees (n : Numeral) (c : Cursor) : Agrees L L' (readNumber L n c) (readNumber L' n c) := by
  refine Agrees.bind (.same _) fun value => (countItem_agrees raised c).bind fun c => ?_
  exact (checkNumber_agrees raised value).bind fun _ => .same _

theorem readGroup_agrees {f g : Cursor → Except Stop (Expr × Cursor)} (hfg : ∀ c, Agrees L L' (f c) (g c)) (c : Cursor) :
    Agrees L L' (readGroup L f c) (readGroup L' g c) :=
  (enter_agrees raised c).bind fun c => (hfg c).bind fun _ => .same _

/-- The head of an item is found without a look at the bounds. -/
theorem readItem_agrees {f g : Cursor → Except Stop (Expr × Cursor)} (hfg : ∀ c, Agrees L L' (f c) (g c)) (c : Cursor) :
    Agrees L L' (readItem L f c) (readItem L' g c) := by
  unfold readItem
  rcases Lexeme.scan c.rest with ⟨lexeme, rest⟩
  cases lexeme with
  | opening => exact readGroup_agrees raised hfg _
  | dice count sides a => exact readDice_agrees raised count sides a _
  | number n => exact readNumber_agrees raised n _
  | noSides | missing => exact .same _

theorem readExpr_agrees : ∀ (fuel : Nat) (before : Option (Expr × Operator)) (c : Cursor),
    Agrees L L' (readExpr L fuel before c) (readExpr L' fuel before c)
  | 0, _, _ => .same _
  | fuel + 1, before, c => by
    refine (readItem_agrees raised (readExpr_agrees fuel none) c).bind fun r => ?_
    obtain ⟨item, c⟩ := r
    dsimp only
    cases Operator.scan? c.rest with
    | none => exact .same _
    | some next => exact readExpr_agrees fuel _ _

theorem readTarget_agrees (compare : Compare) (c : Cursor) :
    Agrees L L' (readTarget L compare c) (readTarget L' compare c) := by
  unfold readTarget
  cases Numeral.scan? (Text.skipGap c.rest) with
  | none => exact .same _
  | some next => exact Agrees.bind (.same _) fun target => (checkNumber_agrees raised target).bind fun _ => .same _

theorem readChecker_agrees (c : Cursor) : Agrees L L' (c.readChecker L) (c.readChecker L') := by
  unfold readChecker
  split
  · exact .same _
  · split
    · exact .same _
    · exact (readTarget_agrees raised _ _).bind fun _ => .same _

end Cursor

theorem readChars_agrees (cs : List Char) : Agrees L L' (readChars L cs) (readChars L' cs) :=
  (Cursor.readExpr_agrees raised _ none _).bind fun r => (Cursor.readChecker_agrees raised r.2).bind fun _ => .same _

/-- Whole texts agree, too: those that exceed no lower bound are read in the same way or refused in the same way. -/
theorem read_eq_of_raised {text : String} (h : ∀ e, read L text ≠ .error (.overLimit e)) :
    read L' text = read L text ∨
      read L text = .error (.digits .write) ∧ ∃ total : Nat, L.rolls < total ∧ total ≤ L'.rolls ∧ ¬Writable total := by
  by_cases hblank : text.toList.all Text.isBlank = true
  · exact .inl (by simp only [read, if_pos hblank])
  · have hread := fun K => read_of_not_blank (L := K) (Bool.eq_false_iff.2 hblank)
    have hagrees := readChars_agrees raised text.toList
    rw [hread L] at h ⊢
    rw [hread L']
    generalize readChars L text.toList = x at hagrees h ⊢
    generalize readChars L' text.toList = y at hagrees ⊢
    cases hagrees with
    | same => exact .inl rfl
    | overLimit e => exact absurd rfl (h e)
    | unwritten exceeds allowed long => exact .inr ⟨rfl, _, exceeds, allowed, long⟩

end Readers

/-! ## Commands -/

/-- **Raised bounds change nothing but limit errors.** Let a text be read under some bounds, or refused for anything but a
bound. Under bounds of which none is lower it is read as the same, or refused for the same with the same report, as long as
the bound on rolled dice can be written. In any case the only exception is a text that is refused because a total of rolled
dice exceeds its bound and has too many digits to be written, where the raised bound allows this total. -/
theorem read_of_raised {L L' : Limits} (raised : ∀ l, (L.get l : Nat) ≤ L'.get l) {text : String}
    (h : ∀ e, read L text ≠ .error (.overLimit e)) :
    (Writable (L'.rolls : Nat) → read L' text = read L text) ∧
      (read L' text = read L text ∨
        read L text = .error (.digits .write) ∧ ∃ total : Nat, L.rolls < total ∧ total ≤ L'.rolls ∧ ¬Writable total) := by
  have hread := read_eq_of_raised raised h
  refine ⟨fun hwritable => ?_, hread⟩
  rcases hread with hsame | ⟨-, total, -, allowed, long⟩
  · exact hsame
  · -- what is below a number that can be written can be written
    refine absurd ?_ long
    rw [writable_iff, Int.natAbs_natCast] at hwritable ⊢
    exact Nat.lt_of_le_of_lt allowed hwritable

/-- With all bounds doubled, a group that is not closed is refused at the same position. -/
theorem read_of_raised_openGroup :
    let L' := Limits.ofFn fun l => ⟨2 * Limits.standard.get l, Nat.mul_pos (by decide) (Limits.standard.get l).2⟩
    let e : SyntaxError := .unexpected "2d6 max x (3 - -4" 17 .closing
    (∀ l, (Limits.standard.get l : Nat) ≤ L'.get l) ∧ read .standard "2d6 max x (3 - -4" = .error (.syntactic e) ∧
      read L' "2d6 max x (3 - -4" = .error (.syntactic e) := by
  intro L' e
  have raised : ∀ l, (Limits.standard.get l : Nat) ≤ L'.get l := by
    intro l
    rw [Limits.get_ofFn]
    exact Nat.le_mul_of_pos_left _ (by decide)
  have hread : read .standard "2d6 max x (3 - -4" = .error (.syntactic e) := by decide +kernel
  have unlimited : ∀ err, read .standard "2d6 max x (3 - -4" ≠ .error (.overLimit err) := by simp [hread]
  exact ⟨raised, hread, ((read_of_raised raised unlimited).1 (by decide)).trans hread⟩

/-! ## A total that cannot be written -/

open Cursor in
/-- A sentence with an operator behind it and nothing more is refused for its first excess, or else for want of an item. -/
theorem readChars_of_sentence_operator {L : Limits} {ts : List Token} {cs : List Char} {e : Expr}
    (h : Sentence ts cs e none) (short : ShortNumerals ts) (op : Operator) :
    readChars L (cs ++ [op.symbol]) = match firstExcess L {} (e.visits 0) with
      | some first => .error first.stop
      | none => .error (.unexpected .item []) := by
  obtain ⟨tree, g, hg, layout⟩ := h
  cases tree with
  | bare row =>
    have hop : Layout [.operator op] (g ++ [op.symbol]) [] := by
      simpa using Layout.one hg (.operator op) []
    rw [readChars_eq, readRow_of_layout row short (layout.append_right [op.symbol]) (hop.stops rfl)]
    have htally : firstExcess L (tally ((⟨cs ++ [op.symbol], 0, 0, 0⟩ : Cursor).moveTo (g ++ [op.symbol]))) (e.visits 0) =
        firstExcess L {} (e.visits 0) := rfl
    cases hx : firstExcess L {} (e.visits 0) with
    | some first =>
      rw [pass_of_some (htally.trans hx)]
      rfl
    | none =>
      rw [pass_of_none (htally.trans hx)]
      show (resume L e _ >>= _) = _
      rw [resume_of_scan (Operator.scan?_of_layout hop)]
      rfl

/-- A text that rolls one die more than `n` and ends in an operator, where `n` can be written and `n + 1` cannot: it is
refused for its total if this exceeds the bound, and else at its end. -/
theorem read_twoTerms_operator {L : Limits} (items : 2 ≤ (L.itemCount : Nat)) (sides : 6 ≤ (L.sides : Nat)) {n : Nat}
    (writable : Writable n) (long : ¬Writable (1 + n : Nat)) {text : String}
    (htext : text.toList = twoTerms 1 n ++ [Operator.add.symbol]) :
    read L text =
      .error (if L.rolls < 1 + n then .digits .write else .syntactic (.unexpected text text.length .item)) := by
  obtain ⟨ts, sentence, short⟩ := twoTerms_sentence (show Writable 1 by decide) writable
  have hblank : text.toList.all Text.isBlank = false := by
    rw [htext, List.all_append]
    exact Bool.and_eq_false_imp.2 fun _ => rfl
  rw [read_of_not_blank hblank, htext, readChars_of_sentence_operator sentence short, firstExcess_twoTerms items sides]
  by_cases hrolls : L.rolls < 1 + n
  · rw [if_pos hrolls, if_pos hrolls]
    show Except.error (Stop.inText text (LimitError.stop (.rolls (1 + n) L.rolls))) = _
    rw [LimitError.stop, if_neg (show ¬LimitError.Reportable (.rolls (1 + n) L.rolls) from long)]
    rfl
  · rw [if_neg hrolls, if_neg hrolls]
    rfl

/-- One die more than can be written, and an operator with nothing behind it. -/
def openTotal : String :=
  String.ofList (twoTerms 1 greatestWritable ++ [Operator.add.symbol])

/-- Under the standard bounds this text is refused for its total, which cannot be written, and so not as over the limit.
Under a bound on rolled dice that is this total it is refused at its end, where an item is missing. -/
theorem read_raised_openTotal :
    let L' := { Limits.standard with rolls := ⟨1 + greatestWritable, Nat.le_add_right 1 _⟩ }
    (∀ l, (Limits.standard.get l : Nat) ≤ L'.get l) ∧ read .standard openTotal = .error (.digits .write) ∧
      read L' openTotal = .error (.syntactic (.unexpected openTotal openTotal.length .item)) := by
  have writable := writable_greatestWritable
  have long := not_writable_succ_greatestWritable
  have large := hundred_le_greatestWritable
  have htext : openTotal.toList = twoTerms 1 greatestWritable ++ [Operator.add.symbol] := String.toList_ofList
  generalize openTotal = text at htext ⊢
  generalize greatestWritable = n at writable long large htext ⊢
  intro L'
  refine ⟨?_, ?_, ?_⟩
  · intro l
    cases l with
    | rolls => exact Nat.le_trans large (Nat.le_add_left n 1)
    | itemCount | sides | number | depth => exact Nat.le_refl _
  · rw [read_twoTerms_operator (by decide) (by decide) writable long htext]
    exact congrArg Except.error (if_pos (show 100 < 1 + n by omega))
  · rw [read_twoTerms_operator (show 2 ≤ 20 by decide) (show 6 ≤ 1000 by decide) writable long htext]
    exact congrArg Except.error (if_neg (Nat.lt_irrefl (1 + n)))

end DiceNotation
