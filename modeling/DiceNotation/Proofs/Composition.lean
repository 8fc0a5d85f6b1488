import DiceNotation.Proofs.Grammar.Beginning
import DiceNotation.Proofs.Reading.Acceptance
import DiceNotation.Proofs.Roll.Outcome

/-!
# Commands put together

Two texts without a checker and an operator between them are a text again, whatever spaces stand at the seam, and its tree
is put together from theirs: as one row, or with the second in parentheses.

* `Sentence.append`, `Sentence.parenthesize`: the text and the tokens of an expression that is put together.
* `Expr.leaves_append`, `Expr.nesting_append`: its items and its nesting.
* `Expr.roll_snoc_group`: a row and a group behind it are rolled one after the other.
* `read_append`: such a text is read just when its tree is within the bounds and the total of its rolled dice can be written,
  whatever bounds its parts were read under.
* `read_append_unnotedTotal`: a text put together that is within the bounds and is not read.
-/

namespace DiceNotation

/-! ## Sentences -/

section Sentences

variable {ts us : List Token} {cs ds : List Char} {e e' : Expr}

/-- The tokens of a sentence without a checker are an expression. -/
theorem Sentence.row (h : Sentence ts cs e none) : ExprOf ts e := by
  cases h.tree with
  | bare row => exact row

/-- A sentence is the text of its tokens and a gap. -/
theorem Sentence.spelling {checker : Option Checker} (h : Sentence ts cs e checker) :
    ∃ ds g, cs = ds ++ g ∧ Gap g ∧ Spelling ts ds := by
  obtain ⟨g, hg, layout⟩ := h.text
  obtain ⟨ds, rfl, spelling⟩ := layout.exists_spelling
  exact ⟨ds, g, rfl, hg, spelling⟩

/-- Two expressions with an operator between them are an expression: the gaps at the seam stand between tokens. -/
theorem Sentence.append (first : Sentence ts cs e none) {op : Operator} {w : List Char}
    (symbol : (Token.operator op).Spelled w) (last : Sentence us ds e' none) :
    Sentence (ts ++ .operator op :: us) (cs ++ (w ++ ds)) (e.append op e') none := by
  obtain ⟨cs, g, rfl, hg, spelling⟩ := first.spelling
  obtain ⟨g', hg', layout⟩ := last.text
  refine ⟨.bare (first.row.append op last.row), g', hg', ?_⟩
  have behind : Layout (.operator op :: us) (g ++ (w ++ ds)) g' := .cons hg symbol layout
  simpa using (spelling _).append behind

/-- An expression in parentheses is an expression. -/
theorem Sentence.parenthesize (h : Sentence ts cs e none) :
    Sentence (.opening :: (ts ++ [.closing])) ('(' :: (cs ++ [')'])) (.single (.group e)) none := by
  obtain ⟨ds, g, rfl, hg, spelling⟩ := h.spelling
  refine ⟨.bare (.single (.group h.row)), [], gap_nil, ?_⟩
  have closing : Layout [.closing] (g ++ ([')'] ++ [])) [] := .one hg .closing []
  have opening := Layout.tight .opening ((spelling _).append closing)
  simpa using opening

end Sentences

/-! ## Trees -/

section Trees

variable (e : Expr) (op : Operator)

/-- The items of two rows, one after the other. -/
theorem Expr.leaves_append (e' : Expr) : (e.append op e').leaves = e.leaves ++ e'.leaves := by
  cases e' with
  | single item => rw [append_single, Expr.leaves, Expr.leaves]
  | snoc e' op' item => rw [append_snoc, Expr.leaves, leaves_append e', Expr.leaves, List.append_assoc]

theorem Expr.nesting_append (e' : Expr) : (e.append op e').nesting = max e.nesting e'.nesting := by
  cases e' with
  | single item => rw [append_single, Expr.nesting, Expr.nesting]
  | snoc e' op' item => rw [append_snoc, Expr.nesting, nesting_append e', Expr.nesting, Nat.max_assoc]

theorem Expr.itemCount_append (e' : Expr) : (e.append op e').itemCount = e.itemCount + e'.itemCount := by
  simp [itemCount, leaves_append]

theorem Expr.rolls_append (e' : Expr) : (e.append op e').rolls = e.rolls + e'.rolls := by
  simp [rolls, dice, leaves_append]

end Trees

/-! ## Rolls -/

/-- A row and a group behind it are rolled one after the other, the group on what the row leaves of the source. -/
theorem Expr.roll_snoc_group {σ : Type} [Source σ] {e e' : Expr} {op : Operator} {o : ExprRoll} {source after : σ} :
    (Expr.snoc e op (.group e')).roll source = (.ok o, after) ↔
      ∃ a b mid, e.roll source = (.ok a, mid) ∧ e'.roll mid = (.ok b, after) ∧
        o = .snoc a op (.group b) (op.apply a.value b.value) := by
  constructor
  · intro h
    obtain ⟨a, mid, hfirst, h⟩ := Attempt.bind_eq_ok h
    obtain ⟨item, mid', hitem, h⟩ := Attempt.bind_eq_ok h
    obtain ⟨b, mid'', hlast, hitem⟩ := Attempt.bind_eq_ok hitem
    cases hitem
    cases h
    exact ⟨a, b, mid, hfirst, hlast, rfl⟩
  · rintro ⟨a, b, mid, hfirst, hlast, rfl⟩
    simp only [Expr.roll, Item.roll, Attempt.bind_apply, hfirst, hlast, Attempt.pure_apply]
    rfl

/-! ## Commands -/

/-- A text that is read without a checker is a sentence with short numerals. -/
theorem sentence_of_read_bare {L : Limits} {text : String} {e : Expr}
    (h : (read L text).map (fun r => (r.expr, r.checker)) = .ok (e, none)) :
    ∃ ts, Sentence ts text.toList e none ∧ ShortNumerals ts := by
  cases hr : read L text with
  | error err => rw [hr] at h; cases h
  | ok r =>
    rw [hr] at h
    obtain ⟨rfl, hchecker⟩ := Prod.mk.inj (Except.ok.inj h)
    obtain ⟨ts, sentence, short, -⟩ := sentence_of_read hr
    rw [hchecker] at sentence
    exact ⟨ts, sentence, short⟩

/-- Some dice with six sides are read as a dice term, as many as their bound allows. -/
theorem read_sixSided {L : Limits} (sides : 6 ≤ (L.sides : Nat)) {n : Nat} (rolls : n ≤ L.rolls) (writable : Writable n)
    {text : String} (htext : text.toList = sixSided n) :
    (read L text).map (fun r => (r.expr, r.checker)) = .ok (.single (.dice ⟨n, 6, .sum⟩), none) := by
  obtain ⟨ts, sentence, short⟩ := sentence_of_spells (spells_single (spells_sixSided writable))
  rw [← htext] at sentence
  have hdice : ∀ d ∈ [(⟨n, 6, .sum⟩ : Dice)], d.sides ≤ (L.sides : Nat) := by simpa using Int.ofNat_le.2 sides
  have within : Within L (.single (.dice ⟨n, 6, .sum⟩)) none :=
    ⟨show 1 ≤ (L.itemCount : Nat) from L.itemCount.2, hdice, rolls, nofun, nofun, Nat.zero_le _⟩
  exact (read_eq_ok_iff_within sentence short _).2 ⟨within, writable, rfl⟩

/-- **Texts with an operator between them are read as their trees with the operator between them.** Let two texts be read
without a checker, each under some bounds, and let a character stand for an operator.

* The first text, the character and the second text are read, under whatever bounds, just when the row of the items of both
  is within the bounds and the total of its rolled dice can be written, and then as this row. Its items and its rolled dice
  are those of both together, and its groups are nested as deep as in the deeper one.
* With the second text in parentheses the same holds of the row with one group more.
* If a roll of that row as a command succeeds, from whatever source, then the first expression has an outcome on the source,
  the second one has an outcome on what the first leaves of it, and the value is what the operator makes of their values. The
  parts are rolled as rows (`Expr.roll`), without a checker and a record: that is what the roll of a command starts with.

The total can be written as long as the bound on rolled dice can. -/
theorem read_append {Lu Lv : Limits} {u v : String} {e e' : Expr}
    (hu : (read Lu u).map (fun r => (r.expr, r.checker)) = .ok (e, none))
    (hv : (read Lv v).map (fun r => (r.expr, r.checker)) = .ok (e', none))
    {c : Char} {op : Operator} (symbol : Operator.ofChar? c = some op) :
    let row := Expr.ofItems e.first (e.rest ++ (op, e'.first) :: e'.rest)
    let grouped := Expr.ofItems e.first (e.rest ++ [(op, .group e')])
    (∀ L r, (read L (u ++ String.singleton c ++ v)).map (fun r => (r.expr, r.checker)) = .ok r ↔
      Within L row none ∧ Writable row.rolls ∧ r = (row, none)) ∧
    (row.itemCount = e.itemCount + e'.itemCount ∧ row.rolls = e.rolls + e'.rolls ∧
      row.nesting = max e.nesting e'.nesting) ∧
    (∀ L r, (read L (u ++ String.singleton c ++ "(" ++ v ++ ")")).map (fun r => (r.expr, r.checker)) = .ok r ↔
      Within L grouped none ∧ Writable grouped.rolls ∧ r = (grouped, none)) ∧
    (grouped.itemCount = e.itemCount + e'.itemCount ∧ grouped.rolls = e.rolls + e'.rolls ∧
      grouped.nesting = max e.nesting (e'.nesting + 1)) ∧
    ∀ (σ : Type) [Source σ] (checker : Option Checker) (keepDetail : Bool) (language : Language) (source after : σ)
      (r : RollResult), rollCommand grouped checker keepDetail language source = (.ok r, after) →
        ∃ a b mid, e.roll source = (.ok a, mid) ∧ e'.roll mid = (.ok b, after) ∧
          r.value = op.apply a.value b.value := by
  intro row grouped
  have spelled : (Token.operator op).Spelled [c] := Operator.ofChar?_eq_some.1 symbol
  have shortOperator : ShortNumerals [.operator op] := shortNumerals_other nofun
  obtain ⟨ts, first, hts⟩ := sentence_of_read_bare hu
  obtain ⟨us, last, hus⟩ := sentence_of_read_bare hv
  have hgrouped : e.append op (.single (.group e')) = grouped := rfl
  refine ⟨fun L r => ?_, ⟨?_, ?_, ?_⟩, fun L r => ?_, ⟨?_, ?_, ?_⟩, ?_⟩
  · have whole : Sentence (ts ++ .operator op :: us) (u ++ String.singleton c ++ v).toList row none := by
      have joined : Sentence _ _ row none := first.append spelled last
      simpa using joined
    have short := shortNumerals_append.2 ⟨hts, shortNumerals_cons.2 ⟨shortOperator, hus⟩⟩
    exact read_eq_ok_iff_within whole short r
  · exact Expr.itemCount_append e op e'
  · exact Expr.rolls_append e op e'
  · exact Expr.nesting_append e op e'
  · have whole : Sentence (ts ++ .operator op :: .opening :: (us ++ [.closing]))
        (u ++ String.singleton c ++ "(" ++ v ++ ")").toList grouped none := by
      have joined : Sentence _ _ grouped none := first.append spelled last.parenthesize
      simpa using joined
    have shortOpening : ShortNumerals [.opening] := shortNumerals_other nofun
    have shortClosing : ShortNumerals [.closing] := shortNumerals_other nofun
    have shortGroup := shortNumerals_cons.2 ⟨shortOpening, shortNumerals_append.2 ⟨hus, shortClosing⟩⟩
    have short := shortNumerals_append.2 ⟨hts, shortNumerals_cons.2 ⟨shortOperator, shortGroup⟩⟩
    exact read_eq_ok_iff_within whole short r
  · exact Expr.itemCount_append e op (.single (.group e'))
  · exact Expr.rolls_append e op (.single (.group e'))
  · exact Expr.nesting_append e op (.single (.group e'))
  · intro σ _ checker keepDetail language source after r h
    obtain ⟨o, mid, hroll, -⟩ := Attempt.bind_eq_ok h
    rw [rollCommand_of_ok hroll] at h
    rw [← hgrouped, Expr.append_single] at hroll
    obtain ⟨a, b, between, hfirst, hlast, rfl⟩ := Expr.roll_snoc_group.1 hroll
    split at h
    · cases h
      exact ⟨a, b, between, hfirst, hlast, rfl⟩
    · cases h

/-- A word at the seam, a sign behind a minus, and a group: the texts are read together, and the group takes the second of
two points. -/
theorem read_append_seam :
    let e : Expr := .single (.dice ⟨1, 6, .max⟩)
    let e' : Expr := .snoc (.single (.number (-3))) .sub (.group (.single (.dice ⟨1, 4, .sum⟩)))
    let grouped : Expr := .snoc e .sub (.group e')
    (read .standard "1D6 Max ").map (fun r => (r.expr, r.checker)) = .ok (e, none) ∧
      (read .standard "\t-3-(1 d4)").map (fun r => (r.expr, r.checker)) = .ok (e', none) ∧
      Operator.ofChar? '-' = some .sub ∧
      (read .standard "1D6 Max -(\t-3-(1 d4))").map (fun r => (r.expr, r.checker)) = .ok (grouped, none) ∧
      ∃ r a b mid, rollCommand grouped none false .en ([5, 2] : List Int) = (.ok r, []) ∧
        e.roll ([5, 2] : List Int) = (.ok a, mid) ∧ e'.roll mid = (.ok b, []) ∧ r.value = a.value - b.value := by
  intro e e' grouped
  have hu : (read .standard "1D6 Max ").map (fun r => (r.expr, r.checker)) = .ok (e, none) := by decide +kernel
  have hv : (read .standard "\t-3-(1 d4)").map (fun r => (r.expr, r.checker)) = .ok (e', none) := by decide +kernel
  obtain ⟨-, -, hgroup, -, hroll⟩ := read_append hu hv (show Operator.ofChar? '-' = some .sub from rfl)
  have within : Within .standard grouped none := by
    refine ⟨by decide, by decide, by decide, by decide, nofun, by decide⟩
  have rolled : rollCommand grouped none false .en ([5, 2] : List Int) = (.ok _, []) := rfl
  obtain ⟨a, b, mid, hfirst, hlast, hvalue⟩ := hroll _ _ _ _ _ _ _ rolled
  have whole := (hgroup _ _).2 ⟨within, within.writable_rolls (by decide), rfl⟩
  exact ⟨hu, hv, rfl, whole, _, a, b, mid, rolled, hfirst, hlast, hvalue⟩

/-- Two dice terms are read under some bounds, and with an operator between them they are within these bounds, but they are
not read: the total of their dice cannot be written. -/
theorem read_append_unnotedTotal :
    let L := { Limits.standard with rolls := ⟨1 + greatestWritable, Nat.le_add_right 1 _⟩ }
    let e : Expr := .single (.dice ⟨1, 6, .sum⟩)
    let e' : Expr := .single (.dice ⟨greatestWritable, 6, .sum⟩)
    ∃ u v, (read L u).map (fun r => (r.expr, r.checker)) = .ok (e, none) ∧
      (read L v).map (fun r => (r.expr, r.checker)) = .ok (e', none) ∧ Operator.ofChar? '+' = some .add ∧
      Within L (.ofItems e.first (e.rest ++ (.add, e'.first) :: e'.rest)) none ∧
      read L (u ++ String.singleton '+' ++ v) = .error (.digits .write) := by
  have writable := writable_greatestWritable
  have long := not_writable_succ_greatestWritable
  generalize greatestWritable = n at writable long ⊢
  intro L e e'
  have items : 2 ≤ (L.itemCount : Nat) := show 2 ≤ 20 by decide
  have sides : 6 ≤ (L.sides : Nat) := show 6 ≤ 1000 by decide
  have hu := read_sixSided sides (show 1 ≤ 1 + n from Nat.le_add_right 1 n) (by decide)
    (String.toList_ofList (l := sixSided 1))
  have hv := read_sixSided sides (show n ≤ 1 + n from Nat.le_add_left n 1) writable
    (String.toList_ofList (l := sixSided n))
  refine ⟨_, _, hu, hv, rfl, within_twoTerms items sides (Nat.le_refl (1 + n)), ?_⟩
  refine read_twoTerms items sides writable long ?_
  simp [twoTerms]

end DiceNotation
