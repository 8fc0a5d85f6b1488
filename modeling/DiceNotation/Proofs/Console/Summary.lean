import DiceNotation.Console.Report
import DiceNotation.Proofs.Counts
import DiceNotation.Proofs.Grammar.Spelling

/-!
# What a summary shows is read again

The summary of a command shows its dice terms and its checker in writing. The terms with plus signs between them, and then
the checker, are a command again, under the same bounds: the sum of the dice terms, with the same checker.

* `ExprOf.written_dice`: the counts and the sides that a summary shows can be written.
* `spells_term`, `spells_terms`: what a dice term in writing, and such terms with plus signs between them, spell.
* `within_pool`: the sum of the dice terms is within the bounds that the command is within.
* `read_summary`: what is shown is read as the dice terms of the command, added up, and its checker.
-/

namespace DiceNotation

/-! ## Numbers that are shown -/

mutual

theorem ItemOf.written_dice : ∀ {ts : List Token} {item : Item}, ItemOf ts item → Written ts →
    ∀ d ∈ item.diceTerms, Writable d.count ∧ Writable d.sides
  | _, _, .number _, _, _, hd => nomatch hd
  | _, _, .dice count sides, written, d, hd => by
    cases List.mem_singleton.1 hd
    exact ⟨written count (by simp), written sides (by simp)⟩
  | _, _, .diceWith count sides _, written, d, hd => by
    cases List.mem_singleton.1 hd
    exact ⟨written count (by simp), written sides (by simp)⟩
  | _, _, .group inner, written, d, hd =>
    ExprOf.written_dice inner (fun n hn => written n (by simp [hn])) d hd

/-- The counts and the sides of an expression whose numerals can be written can be written. -/
theorem ExprOf.written_dice : ∀ {ts : List Token} {e : Expr}, ExprOf ts e → Written ts →
    ∀ d ∈ e.dice, Writable d.count ∧ Writable d.sides
  | _, _, .single only, written, d, hd => ItemOf.written_dice only written d hd
  | _, _, .snoc _ row last, written, d, hd => by
    obtain ⟨hrow, hlast⟩ := written_append written
    rw [Expr.dice_snoc, List.mem_append] at hd
    rcases hd with hd | hd
    · exact ExprOf.written_dice row hrow d hd
    · exact ItemOf.written_dice last (fun n hn => hlast n (List.mem_cons_of_mem _ hn)) d hd

end

section Commands

variable {ts : List Token} {e : Expr} {checker : Option Checker}

theorem CommandOf.written_dice (h : CommandOf ts e checker) (written : Written ts) :
    ∀ d ∈ e.dice, Writable d.count ∧ Writable d.sides := by
  cases h with
  | bare row => exact row.written_dice written
  | checked row c target => exact row.written_dice (written_append written).1

end Commands

/-! ## The sum of the dice terms -/

/-- The row that adds up some dice terms. -/
def Expr.pool (d : Dice) (ds : List Dice) : Expr :=
  (Expr.single (.dice d)).adding (ds.map .dice)

section Pool

variable {d : Dice} {ds : List Dice}

theorem spells_term {d : Dice} (written : Writable d.count ∧ Writable d.sides) :
    Spells (ItemOf · (.dice d)) (Report.dice d) :=
  spells_dice written.1 written.2

/-- Dice terms in writing, with plus signs between them, are their sum. -/
theorem spells_terms (written : ∀ d' ∈ d :: ds, Writable d'.count ∧ Writable d'.sides) :
    Spells (ExprOf · (.pool d ds)) (['+'].intercalate ((d :: ds).map Report.dice)) :=
  spells_sum fun d' hd' => spells_term (written d' hd')

theorem Expr.items_pool : (pool d ds).first :: (pool d ds).rest.map Prod.snd = (d :: ds).map .dice := by
  rw [pool, first_adding, rest_adding]
  simp [first, rest]

theorem Expr.operators_pool : ∀ op ∈ (pool d ds).operators, op = .add := by
  rw [operators, pool, rest_adding]
  simp [rest]

theorem Expr.leaves_pool : (pool d ds).leaves = (d :: ds).map .dice := by
  rw [pool, leaves_adding, List.flatMap_map]
  exact congrArg _ List.map_eq_flatMap.symm

theorem Expr.dice_pool : (pool d ds).dice = d :: ds := by
  rw [dice, leaves_pool, List.filterMap_map]
  exact List.filterMap_some

theorem Expr.numbers_pool : (pool d ds).numbers = [] := by
  rw [numbers, leaves_pool, List.filterMap_map]
  exact List.filterMap_eq_nil_iff.2 fun _ _ => rfl

theorem Expr.itemCount_pool : (pool d ds).itemCount = (d :: ds).length := by
  rw [itemCount, leaves_pool, List.countP_map]
  exact List.countP_eq_length.2 fun _ _ => rfl

theorem Expr.nesting_pool : (pool d ds).nesting = 0 := by
  refine nesting_adding (fun item hitem => ?_) _
  obtain ⟨d', -, rfl⟩ := List.mem_map.1 hitem
  rfl

/-- The dice terms of an expression are among its items. -/
theorem Expr.length_dice_le (e : Expr) : e.dice.length ≤ e.itemCount := by
  rw [dice, itemCount, List.length_filterMap_eq_countP]
  refine List.countP_mono_left fun item _ hitem => ?_
  cases item with
  | dice d => rfl
  | number | group | unknown => cases hitem

theorem Expr.rolls_pool {e : Expr} (hdice : e.dice = d :: ds) : (pool d ds).rolls = e.rolls := by
  rw [rolls, dice_pool, ← hdice, rolls]

/-- Bounds that a command is within are bounds for the sum of its dice terms. -/
theorem within_pool {L : Limits} {e : Expr} {checker : Option Checker} (within : Within L e checker)
    (hdice : e.dice = d :: ds) : Within L (.pool d ds) checker where
  items := by
    rw [Expr.itemCount_pool, ← hdice]
    exact Nat.le_trans e.length_dice_le within.items
  sides := by
    rw [Expr.dice_pool, ← hdice]
    exact within.sides
  rolls := by
    rw [Expr.rolls_pool hdice]
    exact within.rolls
  numbers := by
    rw [Expr.numbers_pool]
    nofun
  target := within.target
  depth := by
    rw [Expr.nesting_pool]
    exact Nat.zero_le _

end Pool

/-! ## Summaries -/

namespace Report

/-- The checker of a command in writing; nothing if there is none. -/
def check (checker : Option Checker) : List Char :=
  (checker.map Report.checker).getD []

theorem dice_mem_summary {c : Command} (h : c.expr.dice ≠ []) :
    "Dice: ".toList ++ [',', ' '].intercalate (c.expr.dice.map dice) ∈ summary c := by
  unfold summary
  split
  · rename_i hdice
    exact absurd hdice h
  · simp

theorem checker_mem_summary {c : Command} {target : Checker} (h : c.checker = some target) :
    "Checker: ".toList ++ checker target ∈ summary c := by
  unfold summary
  rw [h]
  simp

end Report

/-- The sum of some dice terms with a checker, in writing, is a sentence with short numerals. -/
theorem sentence_of_pool {d : Dice} {ds : List Dice} {checker : Option Checker}
    (written : ∀ d' ∈ d :: ds, Writable d'.count ∧ Writable d'.sides) (target : ∀ c ∈ checker, Writable c.target) :
    ∃ ts, Sentence ts (['+'].intercalate ((d :: ds).map Report.dice) ++ Report.check checker) (.pool d ds) checker ∧
      ShortNumerals ts := by
  have terms := spells_terms written
  cases checker with
  | none =>
    rw [show Report.check none = [] from rfl, List.append_nil]
    exact sentence_of_spells terms
  | some c => exact sentence_of_spells_checker terms gap_nil gap_nil c (target c rfl)

/-- **What a summary shows is read again.** Let a text with dice terms be compiled under some bounds. The summary of the
command has a line with its dice terms, and a line with its checker if it has one. The dice terms with plus signs between
them, and the checker behind them, are read under the same bounds. What is read is a row of just the dice terms of the
command, those in groups included, in their order and all of them added, with just the checker of the command. -/
theorem read_summary {L : Limits} {text : String} {c : Command} (compiled : Command.compile L text = .ok c)
    (some_dice : c.expr.dice ≠ []) :
    let terms := c.expr.dice.map Report.dice
    ("Dice: ".toList ++ [',', ' '].intercalate terms ∈ Report.summary c ∧
      ∀ target, c.checker = some target → "Checker: ".toList ++ Report.checker target ∈ Report.summary c) ∧
    ∃ r, read L (String.ofList (['+'].intercalate terms ++ (c.checker.map Report.checker).getD [])) = .ok r ∧
      r.expr.first :: r.expr.rest.map Prod.snd = c.expr.dice.map .dice ∧ (∀ op ∈ r.expr.operators, op = .add) ∧
      r.checker = c.checker := by
  intro terms
  refine ⟨⟨Report.dice_mem_summary some_dice, fun target => Report.checker_mem_summary⟩, ?_⟩
  obtain ⟨-, accepted⟩ := read_of_compile compiled
  obtain ⟨ts, sentence, short, within, -⟩ := sentence_of_read accepted
  obtain ⟨g, -, layout⟩ := sentence.text
  have written := layout.written short
  obtain ⟨d, ds, hdice⟩ := List.exists_cons_of_ne_nil some_dice
  have hterms : terms = (d :: ds).map Report.dice := congrArg _ hdice
  have hwritten : ∀ d' ∈ d :: ds, Writable d'.count ∧ Writable d'.sides := by
    rw [← hdice]
    exact sentence.tree.written_dice written
  obtain ⟨us, again, shortAgain⟩ := sentence_of_pool hwritten (sentence.tree.written_target written)
  rw [hterms, hdice]
  rw [← @String.toList_ofList (_ ++ _)] at again
  have writable : Writable (Expr.pool d ds).rolls := Expr.rolls_pool hdice ▸ writable_of_read accepted
  have hread := read_of_within again shortAgain (within_pool within hdice)
  exact ⟨_, hread.trans (Reading.noted_eq_ok.2 ⟨writable, rfl⟩), Expr.items_pool, Expr.operators_pool, rfl⟩

/-- The terms of a command with groups, one of them with a negative count and a negative number of sides. -/
theorem read_summary_nestedTerm :
    ∃ c r, Command.compile .standard "7 - ((2D6) x -2d-6 MAX) + 03d8sum == -4" = .ok c ∧
      "Dice: 2d6, -2d-6max, 3d8".toList ∈ Report.summary c ∧ "Checker: =-4".toList ∈ Report.summary c ∧
      read .standard "2d6+-2d-6max+3d8=-4" = .ok r ∧ r.expr.first :: r.expr.rest.map Prod.snd =
        [.dice ⟨2, 6, .sum⟩, .dice ⟨-2, -6, .max⟩, .dice ⟨3, 8, .sum⟩] ∧ r.checker = some ⟨.eq, -4⟩ := by
  let c : Command := ⟨"7 - ((2D6) x -2d-6 MAX) + 03d8sum == -4", ⟨.snoc (.snoc (.single (.number 7)) .sub
    (.group (.snoc (.single (.group (.single (.dice ⟨2, 6, .sum⟩)))) .mul (.dice ⟨-2, -6, .max⟩)))) .add
    (.dice ⟨3, 8, .sum⟩), some ⟨.eq, -4⟩, 4, 5⟩⟩
  have compiled : Command.compile .standard "7 - ((2D6) x -2d-6 MAX) + 03d8sum == -4" = .ok c := by decide +kernel
  obtain ⟨⟨terms, checker⟩, r, accepted, items, -, target⟩ := read_summary compiled (by decide)
  exact ⟨c, r, compiled, terms, checker _ rfl, accepted, items, target⟩

end DiceNotation
