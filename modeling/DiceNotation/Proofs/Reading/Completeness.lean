import DiceNotation.Proofs.Excess
import DiceNotation.Proofs.Reading.Row

/-!
# Sentences are read

On a sentence, reading does what a walk over the finished tree does. `Cursor.pass` holds some visits against the bounds,
with the cursor's counts. Reading the text of an expression passes the expression's visits (`readRow_of_layout`), so
that a sentence with short numerals is read unless a bound is exceeded, and then reading stops at the first bound that
the walk exceeds (`readChars_of_sentence`).
-/

namespace DiceNotation

/-- An exceeded bound whose report can be written: the report of a total needs the total in writing. -/
def LimitError.Reportable : LimitError → Prop
  | .rolls total _ => Writable total
  | _ => True

instance : DecidablePred LimitError.Reportable
  | .rolls total _ => inferInstanceAs (Decidable (Writable total))
  | .itemCount _ | .sides _ _ | .number _ _ | .depth _ => isTrue trivial

/-- How reading stops at an exceeded bound. -/
def LimitError.stop (e : LimitError) : Stop :=
  if e.Reportable then .overLimit e else .digits .write

theorem Numeral.convert_of_short {n : Numeral} (h : ShortNumerals [.numeral n]) : n.convert = .ok n.value :=
  convert_eq_ok.2 ⟨shortNumerals_numeral.1 h, rfl⟩

namespace Cursor

variable {L : Limits} {c : Cursor}

/-! ## Passing visits -/

/-- The counts of a cursor. -/
def tally (c : Cursor) : Tally :=
  ⟨c.items, c.rolls⟩

/-- The cursor with other counts. -/
def counting (c : Cursor) (k : Tally) : Cursor :=
  { c with items := k.items, rolls := k.rolls }

/-- Count some visits, or stop at the first bound that they exceed. -/
def pass (L : Limits) (vs : List Visit) (c : Cursor) : Except Stop Cursor :=
  match firstExcess L c.tally vs with
  | some e => .error e.stop
  | none => .ok (c.counting (c.tally.afterAll vs))

theorem pass_of_some {vs : List Visit} {e : LimitError} (h : firstExcess L c.tally vs = some e) :
    c.pass L vs = .error e.stop := by
  simp only [pass, h]

theorem pass_of_none {vs : List Visit} (h : firstExcess L c.tally vs = none) :
    c.pass L vs = .ok (c.counting (c.tally.afterAll vs)) := by
  simp only [pass, h]

/-- Passing visits one part after the other, with something to do after each. -/
theorem pass_append_bind {α : Type} (us vs : List Visit) (f : Cursor → Except Stop α) :
    (c.pass L (us ++ vs) >>= f) = c.pass L us >>= fun c => c.pass L vs >>= f := by
  cases hu : firstExcess L c.tally us with
  | some e =>
    have happ : firstExcess L c.tally (us ++ vs) = some e := by rw [firstExcess_append, hu]; rfl
    rw [pass_of_some happ, pass_of_some hu]
    rfl
  | none =>
    have happ : firstExcess L c.tally (us ++ vs) = firstExcess L (c.tally.afterAll us) vs := by
      rw [firstExcess_append, hu]; rfl
    rw [pass_of_none hu]
    show _ = (pass L vs _ >>= f)
    cases hv : firstExcess L (c.tally.afterAll us) vs with
    | some e => rw [pass_of_some (happ.trans hv), pass_of_some hv]
    | none =>
      rw [pass_of_none (happ.trans hv), pass_of_none hv, Tally.afterAll_append]
      rfl

theorem pass_cons_bind {α : Type} (v : Visit) (vs : List Visit) (f : Cursor → Except Stop α) :
    (c.pass L (v :: vs) >>= f) = c.pass L [v] >>= fun c => c.pass L vs >>= f :=
  pass_append_bind [v] vs f

/-- Passing looks at the counts only. -/
theorem pass_map {α : Type} {vs : List Visit} {c₁ c₂ : Cursor} (h : c₁.tally = c₂.tally)
    {f g : Cursor → Except Stop α} (hfg : ∀ k, f (c₁.counting k) = g (c₂.counting k)) :
    (c₁.pass L vs >>= f) = c₂.pass L vs >>= g := by
  cases hv : firstExcess L c₁.tally vs with
  | some e =>
    rw [pass_of_some hv, pass_of_some (h ▸ hv)]
    rfl
  | none =>
    rw [pass_of_none hv, pass_of_none (h ▸ hv), h]
    exact hfg _

/-- Passing one visit that exceeds a bound. -/
theorem pass_one_of_some {v : Visit} {e : LimitError} (h : v.excess L (c.tally.after v) = some e) :
    c.pass L [v] = .error e.stop :=
  pass_of_some ((firstExcess_singleton L c.tally v).trans h)

/-- Passing one visit that exceeds none. -/
theorem pass_one_of_none {v : Visit} (h : v.excess L (c.tally.after v) = none) :
    c.pass L [v] = .ok (c.counting (c.tally.after v)) :=
  pass_of_none ((firstExcess_singleton L c.tally v).trans h)

/-! ## What the readers pass -/

/-- The opening of a group is held against the bounds before it counts. -/
theorem enter_eq : c.enter L = c.pass L [.opening (c.depth + 1)] >>= fun c => .ok { c with depth := c.depth + 1 } := by
  unfold enter
  by_cases h : c.depth + 1 ≤ L.depth
  · rw [if_pos h, pass_one_of_none (Visit.excess_opening_eq_none h)]
    rfl
  · rw [if_neg h, pass_one_of_some (Visit.excess_opening (Nat.not_le.1 h))]
    rfl

theorem countItem_of_le (h : c.items + 1 ≤ L.itemCount) : c.countItem L = .ok { c with items := c.items + 1 } :=
  if_pos h

theorem countItem_of_not_le (h : ¬c.items + 1 ≤ L.itemCount) :
    c.countItem L = .error (.overLimit (.itemCount L.itemCount)) :=
  if_neg h

/-- Counting the dice of a term stops as an exceeded total stops reading. -/
theorem countRolls_of_lt {d : Dice} (h : L.rolls < c.rolls + d.rolls) :
    c.countRolls L d = .error (LimitError.rolls (c.rolls + d.rolls) L.rolls).stop := by
  unfold countRolls
  rw [if_neg (Nat.not_le.2 h)]
  by_cases hw : Writable (c.rolls + d.rolls : Nat)
  · rw [if_pos hw, LimitError.stop, if_pos (show LimitError.Reportable (.rolls _ _) from hw)]
  · rw [if_neg hw, LimitError.stop, if_neg (show ¬LimitError.Reportable (.rolls _ _) from hw)]

/-- The checks of a dice term whose numbers have been read, in their order. -/
theorem countDice_eq (d : Dice) :
    (do let c ← c.countItem L
        if d.sides ≤ L.sides then c.countRolls L d else throw (.overLimit (.sides d.sides L.sides))) =
      c.pass L [.dice d] := by
  by_cases hi : c.items + 1 ≤ L.itemCount
  · rw [countItem_of_le hi]
    show (if d.sides ≤ L.sides then _ else _) = _
    by_cases hs : d.sides ≤ L.sides
    · rw [if_pos hs]
      by_cases hr : c.rolls + d.rolls ≤ L.rolls
      · rw [pass_one_of_none (Visit.excess_dice_eq_none_iff.2 ⟨hi, hs, hr⟩)]
        exact if_pos hr
      · rw [pass_one_of_some (Visit.excess_dice_rolls hi hs (Nat.not_le.1 hr))]
        exact countRolls_of_lt (Nat.not_le.1 hr)
    · rw [if_neg hs, pass_one_of_some (Visit.excess_dice_sides hi (Int.not_le.1 hs))]
      rfl
  · rw [countItem_of_not_le hi, pass_one_of_some (Visit.excess_dice_items (Nat.not_le.1 hi))]
    rfl

theorem readDice_eq {count sides : Numeral} {a : Aggregate} (hcount : ShortNumerals [.numeral count])
    (hsides : ShortNumerals [.numeral sides]) :
    readDice L count sides a c = c.pass L [.dice ⟨count.value, sides.value, a⟩] >>= fun c =>
      .ok (.dice ⟨count.value, sides.value, a⟩, c) := by
  unfold readDice
  rw [Numeral.convert_of_short hcount, Numeral.convert_of_short hsides, ← countDice_eq]
  simp only [bind, Except.bind]
  cases c.countItem L with
  | error e => rfl
  | ok c =>
    by_cases hs : sides.value ≤ L.sides
    · simp only [if_pos hs]
      rfl
    · simp only [if_neg hs]
      rfl

/-- A number item is counted, and its magnitude is looked at. -/
theorem readNumber_eq {n : Numeral} (hn : ShortNumerals [.numeral n]) :
    readNumber L n c = c.pass L [.number n.value] >>= fun c => .ok (.number n.value, c) := by
  unfold readNumber
  rw [Numeral.convert_of_short hn]
  show (c.countItem L >>= fun c => L.checkNumber n.value >>= _) = _
  by_cases hi : c.items + 1 ≤ L.itemCount
  · rw [countItem_of_le hi]
    by_cases hm : n.value.natAbs ≤ L.number
    · have hcheck : L.checkNumber n.value = .ok () := if_pos hm
      rw [hcheck, pass_one_of_none (Visit.excess_number_eq_none_iff.2 ⟨hi, hm⟩)]
      rfl
    · have hcheck : L.checkNumber n.value = .error (.overLimit (.number n.value L.number)) := if_neg hm
      rw [hcheck, pass_one_of_some (Visit.excess_number_value hi (Nat.not_le.1 hm))]
      rfl
  · rw [countItem_of_not_le hi, pass_one_of_some (Visit.excess_number_items (Nat.not_le.1 hi))]
    rfl

/-- The magnitude of a target is looked at, and nothing is counted. -/
theorem checkTarget_eq (n : Int) : (L.checkNumber n >>= fun _ => .ok c) = c.pass L [.target n] := by
  by_cases hm : n.natAbs ≤ L.number
  · have hcheck : L.checkNumber n = .ok () := if_pos hm
    rw [hcheck, pass_one_of_none (Visit.excess_target_eq_none hm)]
    rfl
  · have hcheck : L.checkNumber n = .error (.overLimit (.number n L.number)) := if_neg hm
    rw [hcheck, pass_one_of_some (Visit.excess_target (Nat.not_le.1 hm))]
    rfl

/-! ## Expressions -/

/-- No operator stands in front of a closing parenthesis. -/
theorem scan?_of_closing {cs rest : List Char} (h : Layout [.closing] cs rest) : Operator.scan? cs = none := by
  obtain ⟨g, w, gap, spelled, rfl⟩ := h.one_inv
  refine Operator.scan?_eq_none fun c hc => ?_
  rw [spelled.skipGap_gap_append gap] at hc
  cases spelled
  cases hc
  rfl

/-- A closing parenthesis is found behind its gap. -/
theorem skipGap_of_closing {cs rest : List Char} (h : Layout [.closing] cs rest) : Text.skipGap cs = ')' :: rest := by
  obtain ⟨g, w, gap, spelled, rfl⟩ := h.one_inv
  rw [spelled.skipGap_gap_append gap]
  cases spelled
  rfl

mutual

/-- Reading an item of the grammar passes its visits. -/
theorem readItem_of_layout : ∀ {ts : List Token} {item : Item}, ItemOf ts item → ShortNumerals ts →
    ∀ {c : Cursor} {rest : List Char}, Layout ts c.rest rest → Stops rest →
      readItem L (readRow L none) c = (c.moveTo rest).pass L (item.visits c.depth) >>= fun c => .ok (item, c)
  | _, _, .number n, short, c, rest, layout, stops => by
    unfold readItem
    rw [Lexeme.scan_of_layout (.number n) layout fun _ => stops]
    exact readNumber_eq short
  | _, _, .dice count sides, short, c, rest, layout, stops => by
    obtain ⟨hcount, short⟩ := shortNumerals_cons.1 short
    obtain ⟨-, hsides⟩ := shortNumerals_cons.1 short
    unfold readItem
    rw [Lexeme.scan_of_layout (.dice count sides) layout fun _ => stops]
    exact readDice_eq hcount hsides
  | _, _, .diceWith count sides a, short, c, rest, layout, stops => by
    obtain ⟨hcount, short⟩ := shortNumerals_cons.1 short
    obtain ⟨-, short⟩ := shortNumerals_cons.1 short
    obtain ⟨hsides, -⟩ := shortNumerals_cons.1 short
    unfold readItem
    rw [Lexeme.scan_of_layout (.diceWith count sides a) layout fun _ => stops]
    exact readDice_eq hcount hsides
  | _, _, @ItemOf.group ts e inner, short, c, rest, layout, _ => by
    obtain ⟨-, short⟩ := shortNumerals_cons.1 short
    obtain ⟨short, -⟩ := shortNumerals_append.1 short
    obtain ⟨open', hopen, layout⟩ := layout.uncons
    obtain ⟨close, hinner, hclose⟩ := layout.split
    unfold readItem
    rw [Lexeme.scan_of_layout .opening hopen fun h => absurd rfl h]
    show readGroup L (readRow L none) (c.moveTo open') = _
    unfold readGroup
    rw [enter_eq, bind_assoc, Item.visits]
    refine Eq.trans ?_ (pass_cons_bind _ _ _).symm
    refine pass_map (by rfl) fun k => ?_
    show (readRow L none ⟨open', k.items, k.rolls, c.depth + 1⟩ >>= _) = _
    rw [readRow_of_layout inner short hinner (hclose.stops rfl), bind_assoc]
    refine pass_map (by rfl) fun k => ?_
    show (resume L e ⟨close, k.items, k.rolls, c.depth + 1⟩ >>= _) = _
    rw [resume_of_none (scan?_of_closing hclose)]
    show (match Text.skipGap close with
      | ')' :: rest => _
      | rest => _) = _
    rw [skipGap_of_closing hclose]
    rfl

/-- Reading an expression of the grammar passes its visits and resumes behind it. -/
theorem readRow_of_layout : ∀ {ts : List Token} {e : Expr}, ExprOf ts e → ShortNumerals ts →
    ∀ {c : Cursor} {rest : List Char}, Layout ts c.rest rest → Stops rest →
      readRow L none c = (c.moveTo rest).pass L (e.visits c.depth) >>= resume L e
  | _, _, @ExprOf.single _ item only, short, c, rest, layout, stops => by
    rw [readRow_eq, readItem_of_layout only short layout stops, bind_assoc]
    rfl
  | _, _, @ExprOf.snoc _ _ before item op row last, short, c, rest, layout, stops => by
    obtain ⟨hrow, short⟩ := shortNumerals_append.1 short
    obtain ⟨-, hlast⟩ := shortNumerals_cons.1 short
    obtain ⟨mid, first, layout⟩ := layout.split
    obtain ⟨behind, hop, second⟩ := layout.uncons
    rw [readRow_of_layout row hrow first (hop.stops rfl), Expr.visits, pass_append_bind]
    -- the operator is found where the row so far ends, and the last item behind it
    refine pass_map (by rfl) fun k => ?_
    show resume L before ⟨mid, k.items, k.rolls, c.depth⟩ = _
    rw [resume_of_scan (Operator.scan?_of_layout hop), readRow_eq, readItem_of_layout last hlast second stops,
      bind_assoc]
    rfl

end

/-! ## Checkers -/

theorem readChecker_of_gap (hg : Gap c.rest) : c.readChecker L = .ok (none, c.moveTo []) := by
  unfold readChecker
  rw [skipGap_eq_nil hg]

/-- Reading the target of a comparison at the end of a text looks at its magnitude. -/
theorem readTarget_of_layout {compare : Compare} {n : Numeral} {g : List Char} (hn : ShortNumerals [.numeral n])
    (layout : Layout [.numeral n] c.rest g) (hg : Gap g) :
    readTarget L compare c = (c.moveTo g).pass L [.target n.value] >>= fun c => .ok (⟨compare, n.value⟩, c) := by
  unfold readTarget
  rw [Numeral.scan?_of_layout layout hg.stops.not_isDigit, ← checkTarget_eq, bind_assoc]
  dsimp only
  rw [Numeral.convert_of_short hn]
  rfl

theorem readChecker_of_layout {compare : Compare} {n : Numeral} {g : List Char} (hn : ShortNumerals [.numeral n])
    (layout : Layout [.compare compare, .numeral n] c.rest g) (hg : Gap g) :
    c.readChecker L = c.pass L [.target n.value] >>= fun c => .ok (some ⟨compare, n.value⟩, c.moveTo []) := by
  obtain ⟨mid, first, second⟩ := layout.uncons
  obtain ⟨g', w, gap, spelled, hrest⟩ := first.one_inv
  have hscan := Compare.scan?_of_spelled spelled (Numeral.head?_ne_equals second)
  obtain ⟨d, w, rfl, -⟩ := spelled.head
  unfold readChecker
  rw [hrest, spelled.skipGap_gap_append gap]
  dsimp only [List.cons_append] at hscan ⊢
  rw [hscan]
  dsimp only
  rw [readTarget_of_layout hn second hg, bind_assoc]
  refine pass_map (by rfl) fun k => ?_
  have hend : Text.skipGap (((c.moveTo mid).moveTo g).counting k).rest = [] := skipGap_eq_nil hg
  dsimp only [bind, Except.bind]
  rw [hend]
  rfl

theorem scan?_of_gap {g : List Char} (hg : Gap g) : Operator.scan? g = none :=
  Operator.scan?_eq_none fun c hc => by rw [skipGap_eq_nil hg] at hc; cases hc

/-- No operator stands in front of a comparison. -/
theorem scan?_of_compare {compare : Compare} {ts : List Token} {cs rest : List Char}
    (h : Layout (.compare compare :: ts) cs rest) : Operator.scan? cs = none := by
  cases h with
  | cons gap spelled tail =>
    refine Operator.scan?_eq_none fun c hc => ?_
    rw [spelled.skipGap_gap_append gap] at hc
    cases spelled with
    | compare compare => cases compare <;> cases hc <;> rfl
    | equals => cases hc; rfl

end Cursor

/-! ## Commands -/

open Cursor in
/-- **Completeness**: a sentence with short numerals is read, unless a walk over its tree exceeds a bound. Then reading
stops at the first bound that the walk exceeds. -/
theorem readChars_of_sentence {L : Limits} {ts : List Token} {cs : List Char} {e : Expr} {checker : Option Checker}
    (h : Sentence ts cs e checker) (short : ShortNumerals ts) :
    readChars L cs = match firstExcess L {} (visits e checker) with
      | some excess => .error excess.stop
      | none => .ok ⟨e, checker, e.itemCount, e.rolls⟩ := by
  have hpass : readChars L cs = pass L (visits e checker) ⟨cs, 0, 0, 0⟩ >>= fun c =>
      .ok ⟨e, checker, c.items, c.rolls⟩ := by
    obtain ⟨tree, g, hg, layout⟩ := h
    cases tree with
    | bare row =>
      rw [readChars_eq, readRow_of_layout row short layout hg.stops, bind_assoc, visits]
      show _ = pass L (e.visits 0 ++ []) _ >>= _
      rw [List.append_nil]
      refine pass_map (by rfl) fun k => ?_
      show (resume L e ⟨g, k.items, k.rolls, 0⟩ >>= _) = _
      rw [resume_of_none (scan?_of_gap hg)]
      show (readChecker L ⟨g, k.items, k.rolls, 0⟩ >>= _) = _
      rw [readChecker_of_gap hg]
      rfl
    | checked row compare target =>
      obtain ⟨mid, first, second⟩ := layout.split
      obtain ⟨hrow, short⟩ := shortNumerals_append.1 short
      obtain ⟨-, htarget⟩ := shortNumerals_cons.1 short
      rw [readChars_eq, readRow_of_layout row hrow first (second.stops rfl), bind_assoc, visits, pass_append_bind]
      refine pass_map (by rfl) fun k => ?_
      show (resume L e ⟨mid, k.items, k.rolls, 0⟩ >>= _) = _
      rw [resume_of_none (scan?_of_compare second)]
      show (readChecker L ⟨mid, k.items, k.rolls, 0⟩ >>= _) = _
      rw [readChecker_of_layout htarget second hg, bind_assoc]
      exact pass_map (by rfl) fun k => rfl
  rw [hpass]
  cases hx : firstExcess L {} (visits e checker) with
  | some excess => rw [pass_of_some (show firstExcess L (tally ⟨cs, 0, 0, 0⟩) _ = _ from hx)]; rfl
  | none =>
    rw [pass_of_none (show firstExcess L (tally ⟨cs, 0, 0, 0⟩) _ = _ from hx)]
    show Except.ok (Reading.mk e checker (Tally.afterAll {} _).items (Tally.afterAll {} _).rolls) = _
    rw [afterAll_visits]

end DiceNotation
