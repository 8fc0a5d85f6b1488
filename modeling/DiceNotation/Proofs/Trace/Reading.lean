import DiceNotation.Proofs.Reading.Acceptance
import DiceNotation.Proofs.Trace.Tree

/-!
# Reading a trace again

The trace of an outcome is read again just when all dice terms are sums of at least one point. Otherwise reading stops
at the first dice term that is not: at the name of its aggregate, or between its parentheses.

* `Cursor.Room`: enough room within the bounds for some numbers and parentheses.
* `readRow_refused`: reading a row stops at a dice term that is not plain.
* `read_trace`: the trace of a roll is a command that proves the roll's value again.
-/

namespace DiceNotation

variable {L : Limits}

namespace Cursor

variable {c : Cursor} {ns : List Int} {depth : Nat}

/-! ## Room within the bounds -/

/-- Within the bounds, a cursor has room for some numbers and for parentheses that are nested so deep. -/
structure Room (L : Limits) (c : Cursor) (ns : List Int) (depth : Nat) : Prop where
  items : c.items + ns.length ≤ L.itemCount
  rolls : c.rolls ≤ L.rolls
  numbers : ∀ n ∈ ns, n.natAbs ≤ L.number
  depth : c.depth + depth ≤ L.depth

/-- Room does not depend on the text. -/
theorem Room.moveTo (h : c.Room L ns depth) (rest : List Char) : (c.moveTo rest).Room L ns depth :=
  ⟨h.items, h.rolls, h.numbers, h.depth⟩

/-- Room for two parts is room for the first, and then for the second. -/
theorem Room.split {ns ns' : List Int} {depth depth' : Nat} (h : c.Room L (ns ++ ns') (max depth depth')) :
    c.Room L ns depth ∧ (c.counting ⟨c.items + ns.length, c.rolls⟩).Room L ns' depth' := by
  obtain ⟨items, rolls, numbers, depth⟩ := h
  rw [List.length_append] at items
  obtain ⟨hns, hns'⟩ := List.forall_mem_append.1 numbers
  constructor
  · exact ⟨by omega, rolls, hns, by omega⟩
  · have hitems : c.items + ns.length + ns'.length ≤ L.itemCount := by omega
    have hdepth : c.depth + depth' ≤ L.depth := by omega
    exact ⟨hitems, rolls, hns', hdepth⟩

/-- With room for its numbers and groups, an expression without dice terms is passed. -/
theorem pass_of_room {e : Expr} (leaves : e.leaves = ns.map .number) (room : c.Room L ns e.nesting) :
    c.pass L (e.visits c.depth) = .ok (c.counting ⟨c.items + ns.length, c.rolls⟩) := by
  have hdice := dice_of_leaves leaves
  have hnumbers := numbers_of_leaves leaves
  have hafter : c.tally.afterAll (e.visits c.depth) = ⟨c.items + ns.length, c.rolls⟩ := by
    rw [Expr.afterAll_visits, itemCount_of_leaves leaves, Expr.rolls, hdice]
    rfl
  have hdepth : c.depth ≤ L.depth := Nat.le_trans (Nat.le_add_right _ _) room.depth
  have hfits : c.tally.Fits L := ⟨Nat.le_trans (Nat.le_add_right _ _) room.items, room.rolls⟩
  have hnone : firstExcess L c.tally (e.visits c.depth) = none := by
    rw [firstExcess_eq_none_iff_fits hfits, Expr.fits_visits_iff hdepth, hafter, hdice, hnumbers]
    exact ⟨⟨nofun, room.numbers, room.depth⟩, room.items, room.rolls⟩
  rw [pass_of_none hnone, hafter]

end Cursor

/-! ## Refusals -/

/-- Reading stops for want of something else in the text. -/
def Refused {α : Type} (x : Except Stop α) : Prop :=
  ∃ expected rest, x = .error (.unexpected expected rest)

theorem Refused.bind {α β : Type} {x : Except Stop α} (h : Refused x) (f : α → Except Stop β) : Refused (x >>= f) := by
  obtain ⟨expected, rest, rfl⟩ := h
  exact ⟨expected, rest, rfl⟩

/-- A gap does not change the head of the item behind it. -/
theorem Lexeme.scan_gap_append {g : List Char} (hg : Gap g) (cs : List Char) : scan (g ++ cs) = scan cs := by
  unfold scan
  rw [skipGap_append hg]

namespace Cursor

variable {c : Cursor}

/-- An item is refused where there is none. -/
theorem readItem_of_missing (h : (Lexeme.scan c.rest).1 = .missing) (expr : Cursor → Except Stop (Expr × Cursor)) :
    Refused (readItem L expr c) := by
  unfold readItem
  rcases hscan : Lexeme.scan c.rest with ⟨lexeme, rest⟩
  rw [hscan] at h
  cases h
  exact ⟨.item, rest, rfl⟩

/-- A group is refused if the expression in it is. -/
theorem readItem_of_opening {rest : List Char} (h : Lexeme.scan c.rest = (.opening, rest))
    (hd : c.depth + 1 ≤ L.depth) {expr : Cursor → Except Stop (Expr × Cursor)}
    (hexpr : Refused (expr { c with rest := rest, depth := c.depth + 1 })) : Refused (readItem L expr c) := by
  unfold readItem
  rw [h]
  show Refused (readGroup L expr (c.moveTo rest))
  unfold readGroup
  have henter : (c.moveTo rest).enter L = .ok { c with rest := rest, depth := c.depth + 1 } := if_pos hd
  rw [henter]
  exact hexpr.bind _

/-- A row is refused if its first item is. -/
theorem readRow_of_refused {before : Option (Expr × Operator)} (h : Refused (readItem L (readRow L none) c)) :
    Refused (readRow L before c) := by
  rw [readRow_eq]
  exact h.bind _

/-! ## Traces that are refused -/

/-- The trace of a dice term that is not plain is refused: it starts with a name, or there is nothing between its
parentheses. -/
theorem readItem_dice_refused {d : Dice} {points : List Int} {value : Int} (length : points.length = d.rolls)
    (notPlain : ¬d.Plain) {g rest : List Char} (hg : Gap g) (hd : c.depth + 1 ≤ L.depth)
    (hrest : c.rest = g ++ (DiceRoll.chars ⟨d, points, value⟩ ++ rest)) :
    Refused (readItem L (readRow L none) c) := by
  obtain ⟨count, sides, aggregate⟩ := d
  cases aggregate with
  | sum =>
    have hcount : count ≤ 0 := Int.not_lt.1 fun h => notPlain ⟨rfl, h⟩
    obtain rfl : points = [] := by
      rw [← List.length_eq_zero_iff, length]
      exact Int.toNat_of_nonpos hcount
    have hscan : Lexeme.scan c.rest = (.opening, ')' :: rest) := by
      rw [hrest, Lexeme.scan_gap_append hg]
      rfl
    exact readItem_of_opening hscan hd (readRow_of_refused (readItem_of_missing rfl _))
  | avg | max | min =>
    refine readItem_of_missing ?_ _
    rw [hrest, Lexeme.scan_gap_append hg]
    rfl

mutual

theorem readItem_refused : ∀ {item : Item} {r : ItemRoll}, item.Yields r →
    ¬(∀ d ∈ item.diceTerms, d.Plain) → (∀ n ∈ r.written, Writable n) →
    ∀ {c : Cursor} {g rest : List Char}, c.Room L r.written r.nesting → Gap g → c.rest = g ++ (r.chars ++ rest) →
      Refused (readItem L (readRow L none) c)
  | _, _, .number n, notPlain, _, _, _, _, _, _, _ => absurd nofun notPlain
  | _, _, @Item.Yields.dice d points _ length, notPlain, _, c, g, rest, room, hg, hrest => by
    refine readItem_dice_refused length ?_ hg room.depth hrest
    intro hd
    refine notPlain fun d' hd' => ?_
    cases List.mem_singleton.1 hd'
    exact hd
  | _, _, @Item.Yields.group e o inner, notPlain, writable, c, g, rest, room, hg, hrest => by
    have hscan : Lexeme.scan c.rest = (.opening, o.chars ++ ([')'] ++ rest)) := by
      rw [hrest, Lexeme.scan_gap_append hg, ← List.append_assoc]
      rfl
    have hdepth : c.depth + 1 + o.nesting ≤ L.depth := by
      have h := room.depth
      rw [ItemRoll.nesting] at h
      omega
    refine readItem_of_opening hscan (Nat.le_trans (Nat.le_add_right _ _) hdepth) ?_
    exact readRow_refused inner notPlain writable ⟨room.items, room.rolls, room.numbers, hdepth⟩ gap_nil rfl

/-- The trace of a row with a dice term that is not plain is refused, whatever follows. -/
theorem readRow_refused : ∀ {e : Expr} {o : ExprRoll}, e.Yields o → ¬(∀ d ∈ e.dice, d.Plain) →
    (∀ n ∈ o.written, Writable n) →
    ∀ {c : Cursor} {g rest : List Char}, c.Room L o.written o.nesting → Gap g → c.rest = g ++ (o.chars ++ rest) →
      Refused (readRow L none c)
  | _, _, .single only, notPlain, writable, _, _, _, room, hg, hrest =>
    readRow_of_refused (readItem_refused only notPlain writable room hg hrest)
  | _, _, @Expr.Yields.snoc before o item r op row last, notPlain, writable, c, g, rest, room, hg, hrest => by
    obtain ⟨hwritable, hwritable'⟩ := List.forall_mem_append.1 writable
    obtain ⟨hfirst, hlast⟩ := room.split
    by_cases plain : ∀ d ∈ before.dice, d.Plain
    · -- the row so far is read, and reading stops at the last item
      have notPlain' : ¬(∀ d ∈ item.diceTerms, d.Plain) := by
        intro h
        rw [Expr.dice_snoc, List.forall_mem_append] at notPlain
        exact notPlain ⟨plain, h⟩
      obtain ⟨tail, hop, hcs⟩ : ∃ tail, Layout [.operator op] tail (' ' :: (r.chars ++ rest)) ∧
          c.rest = g ++ o.chars ++ tail := by
        refine ⟨_, .one gap_space (.operator op) _, ?_⟩
        rw [hrest]
        simp [ExprRoll.chars]
      obtain ⟨ts, tree, short, layout⟩ := (ExprRoll.spells row plain hwritable).gap_append (fun _ h => h.ne_nil) hg
      have hlayout : Layout ts c.rest tail := by
        rw [hcs]
        exact layout tail
      have hroom : (c.moveTo tail).Room L o.written o.retrace.nesting := by
        rw [ExprRoll.nesting_retrace]
        exact hfirst.moveTo tail
      have hpass : (c.moveTo tail).pass L (o.retrace.visits c.depth) = .ok _ :=
        pass_of_room (ExprRoll.leaves_retrace row plain) hroom
      rw [readRow_of_layout tree short hlayout (hop.stops rfl), hpass]
      show Refused (resume L o.retrace _)
      rw [resume_of_scan (Operator.scan?_of_layout hop)]
      exact readRow_of_refused (readItem_refused last notPlain' hwritable' (hlast.moveTo _) gap_space rfl)
    · exact readRow_refused row plain hwritable hfirst hg (by rw [hrest, ExprRoll.chars, List.append_assoc])

end

end Cursor

/-- A text whose row is refused is a syntax error. -/
theorem read_of_refused {text : String} (h : Refused (Cursor.readRow L none ⟨text.toList, 0, 0, 0⟩)) :
    ∃ err, read L text = .error (.syntactic err) := by
  have hchars : Refused (readChars L text.toList) := by
    rw [readChars_eq]
    exact h.bind _
  unfold read
  split
  · exact ⟨_, rfl⟩
  · obtain ⟨expected, rest, hstop⟩ := hchars
    rw [hstop]
    exact ⟨_, rfl⟩

/-! ## Traces as commands -/

section Commands

variable {e : Expr} {cs : List Char} {o : ExprRoll} {language : Language}

/-- A row and the value that it is said to have are a command with a checker. -/
theorem sentence_of_spells_equals (h : Spells (ExprOf · e) cs) {value : Int} (writable : Writable value) :
    ∃ ts, Sentence ts (cs ++ ' ' :: '=' :: ' ' :: decimal value) e (some ⟨.eq, value⟩) ∧ ShortNumerals ts := by
  have hequals := sentence_of_spells_checker h gap_space gap_space ⟨.eq, value⟩ writable
  simpa [Compare.symbol] using hequals

/-- What stands behind the row in a trace without a verdict. -/
def ExprRoll.ending (o : ExprRoll) : List Char :=
  if o.isLoneNumber then [] else ' ' :: '=' :: ' ' :: decimal o.value

/-- The checker that a trace without a verdict ends in. -/
def ExprRoll.equation (o : ExprRoll) : Option Checker :=
  if o.isLoneNumber then none else some ⟨.eq, o.value⟩

mutual

theorem ItemRoll.unknown?_eq_none : ∀ {item : Item} {r : ItemRoll}, item.Yields r → r.unknown? = none
  | _, _, .number _ => rfl
  | _, _, .dice _ _ => rfl
  | _, _, .group inner => ExprRoll.unknown?_eq_none inner

/-- Nothing in the outcome of a roll is of no known kind. -/
theorem ExprRoll.unknown?_eq_none : ∀ {e : Expr} {o : ExprRoll}, e.Yields o → o.unknown? = none
  | _, _, .single only => ItemRoll.unknown?_eq_none only
  | _, _, .snoc _ row last => by
    rw [ExprRoll.unknown?, ExprRoll.unknown?_eq_none row, ItemRoll.unknown?_eq_none last]
    rfl

end

theorem trace_of_yields (h : e.Yields o) : o.trace = .ok (String.ofList o.chars) := by
  rw [ExprRoll.trace, ExprRoll.unknown?_eq_none h]

/-- The trace of a roll is the trace of its row and, behind it, the conclusion. -/
theorem trace_result_of_yields (h : e.Yields o) (checker : Option Checker) :
    let r := o.result checker true language
    r.trace = .ok (String.ofList (o.chars ++ r.conclusion o)) := by
  intro r
  show o.trace.map _ = _
  rw [trace_of_yields h, String.ofList_append]
  rfl

/-- The text of a roll without a checker is the trace of its row and, behind anything but a lone number, the value. -/
theorem text_of_yields (h : e.Yields o) :
    (o.result none true language).text = .ok (String.ofList (o.chars ++ o.ending)) := by
  have hend : (o.result none true language).conclusion o = o.ending := List.append_nil _
  have htrace : (o.result none true language).trace? = .ok (some (String.ofList (o.chars ++ o.ending))) := by
    rw [← hend]
    exact congrArg (Except.map some) (trace_result_of_yields h none)
  rw [RollResult.text, htrace]
  rfl

/-- The trace of a roll without a checker whose dice terms are plain is a sentence. -/
theorem sentence_of_yields (h : e.Yields o) (plain : ∀ d ∈ e.dice, d.Plain) (writable : ∀ n ∈ o.written, Writable n)
    (value : Writable o.value) :
    ∃ ts, Sentence ts (o.chars ++ o.ending) o.retrace o.equation ∧ ShortNumerals ts := by
  have hspells := ExprRoll.spells h plain writable
  unfold ExprRoll.ending ExprRoll.equation
  split
  · rw [List.append_nil]
    exact sentence_of_spells hspells
  · exact sentence_of_spells_equals hspells value

/-- Bounds that are large enough for the trace of an outcome and for its value. -/
structure ExprRoll.Fits (L : Limits) (o : ExprRoll) : Prop where
  items : o.written.length ≤ L.itemCount
  numbers : ∀ n ∈ o.written, n.natAbs ≤ L.number
  value : o.value.natAbs ≤ L.number
  depth : o.nesting ≤ L.depth

/-- Nothing is rolled in what the trace of an outcome says. -/
theorem ExprRoll.rolls_retrace (h : e.Yields o) (plain : ∀ d ∈ e.dice, d.Plain) : o.retrace.rolls = 0 := by
  rw [Expr.rolls, dice_of_leaves (leaves_retrace h plain)]
  rfl

theorem ExprRoll.Fits.within (fits : o.Fits L) (h : e.Yields o) (plain : ∀ d ∈ e.dice, d.Plain) :
    Within L o.retrace o.equation := by
  have leaves := ExprRoll.leaves_retrace h plain
  refine ⟨?_, ?_, ?_, ?_, ?_, ?_⟩
  · rw [itemCount_of_leaves leaves]
    exact fits.items
  · rw [dice_of_leaves leaves]
    nofun
  · rw [ExprRoll.rolls_retrace h plain]
    exact Nat.zero_le _
  · rw [numbers_of_leaves leaves]
    exact fits.numbers
  · unfold ExprRoll.equation
    split
    · nofun
    · intro c hc
      cases hc
      exact fits.value
  · rw [ExprRoll.nesting_retrace]
    exact fits.depth

theorem ExprRoll.Fits.room (fits : o.Fits L) : Cursor.Room L ⟨cs, 0, 0, 0⟩ o.written o.nesting := by
  obtain ⟨items, numbers, -, depth⟩ := fits
  rw [← Nat.zero_add o.written.length] at items
  rw [← Nat.zero_add o.nesting] at depth
  exact ⟨items, Nat.zero_le _, numbers, depth⟩

/-- A trace that holds a dice term that is not plain is a syntax error. -/
theorem read_trace_of_not_plain (h : e.Yields o) (notPlain : ¬∀ d ∈ e.dice, d.Plain)
    (writable : ∀ n ∈ o.written, Writable n) (fits : o.Fits L) :
    ∃ err, read L (String.ofList (o.chars ++ o.ending)) = .error (.syntactic err) := by
  refine read_of_refused ?_
  rw [String.toList_ofList]
  exact Cursor.readRow_refused h notPlain writable fits.room gap_nil rfl

/-- Any other trace is read. -/
theorem read_trace_of_plain (h : e.Yields o) (plain : ∀ d ∈ e.dice, d.Plain)
    (writable : ∀ n ∈ o.written, Writable n) (value : Writable o.value) (fits : o.Fits L) :
    ∃ reading, read L (String.ofList (o.chars ++ o.ending)) = .ok reading ∧ reading.expr = o.retrace ∧
      reading.checker = o.equation := by
  obtain ⟨ts, sentence, short⟩ := sentence_of_yields h plain writable value
  rw [← @String.toList_ofList (o.chars ++ o.ending)] at sentence
  refine ⟨⟨o.retrace, o.equation, o.retrace.itemCount, o.retrace.rolls⟩, ?_, rfl, rfl⟩
  rw [read_of_within sentence short (fits.within h plain), Reading.noted_eq_ok, ExprRoll.rolls_retrace h plain]
  exact ⟨show Writable 0 by decide, rfl⟩

/-- A command with a row that draws nothing and the checker that its value is what it is. -/
theorem roll_equation (h : e.Constant o.value) (value : Writable o.value) (τ : Type) [Source τ] (keepDetail : Bool)
    (language : Language) (source : τ) :
    ∃ again : RollResult, rollCommand e o.equation keepDetail language source = (.ok again, source) ∧
      again.value = o.value ∧ again.success = if o.isLoneNumber then none else some true := by
  obtain ⟨outcome, hroll, hvalue⟩ := h τ source
  refine ⟨outcome.result o.equation keepDetail language, ?_, hvalue, ?_⟩
  · rw [rollCommand_of_ok hroll, if_pos (hvalue ▸ value)]
  · show o.equation.map _ = _
    rw [ExprRoll.equation, hvalue]
    split
    · rfl
    · simp [Checker.check, Compare.holds]

end Commands

/-- **The trace of a roll is a command that proves its value again.** Take a roll without a checker that keeps its
outcome, whose written numbers are not too long, and bounds that are large enough. Its trace is read just when every
dice term is a sum of at least one point, and is a syntax error otherwise. What is read draws nothing when it is rolled,
has the same value, and its checker, which only a lone number is without, says so. -/
theorem read_trace {σ : Type} [Source σ] {e : Expr} {source after : σ} {language : Language} {r : RollResult}
    {o : ExprRoll} (rolled : rollCommand e none true language source = (.ok r, after)) (kept : r.detail = some o)
    (written : ∀ n ∈ o.written, Writable n) (fits : o.Fits L) :
    ∃ text, r.text = .ok text ∧
      ((∃ reading, read L text = .ok reading) ↔ ∀ d ∈ e.dice, d.aggregate = .sum ∧ 1 ≤ d.count) ∧
      match read L text with
      | .error err => ∃ stop, err = .syntactic stop
      | .ok reading =>
        reading.expr.dice = [] ∧ (reading.checker = if o.isLoneNumber then none else some ⟨.eq, r.value⟩) ∧
          ∀ (τ : Type) [Source τ] (keepDetail : Bool) (language : Language) (source : τ), ∃ again : RollResult,
            rollCommand reading.expr reading.checker keepDetail language source = (.ok again, source) ∧
              again.value = r.value ∧ again.success = if o.isLoneNumber then none else some true := by
  obtain ⟨outcome, yields, value, rfl⟩ := exists_outcome_of_rollCommand rolled
  obtain rfl : outcome = o := Option.some.inj kept
  refine ⟨_, text_of_yields yields, ?_⟩
  by_cases plain : ∀ d ∈ e.dice, d.Plain
  · obtain ⟨reading, hread, hexpr, hchecker⟩ := read_trace_of_plain yields plain written value fits
    rw [hread]
    refine ⟨iff_of_true ⟨reading, rfl⟩ plain, ?_⟩
    show reading.expr.dice = [] ∧ _
    rw [hexpr, hchecker]
    refine ⟨dice_of_leaves (ExprRoll.leaves_retrace yields plain), rfl, ?_⟩
    exact roll_equation (ExprRoll.constant_retrace yields plain) value
  · obtain ⟨err, hread⟩ := read_trace_of_not_plain yields plain written fits
    rw [hread]
    exact ⟨iff_of_false (fun ⟨_, h⟩ => nomatch h) plain, err, rfl⟩

/-- A roll with a negative point and a negative number, and its trace, which is read again. -/
theorem read_trace_negativePoint :
    let e : Expr := .snoc (.single (.dice ⟨2, 6, .sum⟩)) .sub (.group (.snoc (.single (.number 3)) .sub (.number (-2))))
    let o : ExprRoll := .snoc (.single (.dice ⟨⟨2, 6, .sum⟩, [4, -1], 3⟩) 3) .sub
      (.group (.snoc (.single (.number 3) 3) .sub (.number (-2)) 5)) (-2)
    rollCommand e none true .en ([4, -1, 6] : List Int) = (.ok (o.result none true .en), [6]) ∧
      (∀ n ∈ o.written, Writable n) ∧ o.Fits .standard ∧
      (o.result none true .en).text = .ok "(4+-1) - (3 - -2) = -2" ∧
      ∃ reading, read .standard "(4+-1) - (3 - -2) = -2" = .ok reading := by
  intro e o
  have rolled : rollCommand e none true .en ([4, -1, 6] : List Int) = (.ok (o.result none true .en), [6]) := rfl
  have written : ∀ n ∈ o.written, Writable n := by decide
  have fits : o.Fits .standard := ⟨by decide, by decide, by decide, by decide⟩
  obtain ⟨text, htext, hread, -⟩ := read_trace rolled rfl written fits
  have hspelled : (o.result none true .en).text.toOption = some "(4+-1) - (3 - -2) = -2" := by decide +kernel
  rw [htext] at hspelled
  cases hspelled
  exact ⟨rolled, written, fits, htext, hread.2 (by decide)⟩

end DiceNotation
