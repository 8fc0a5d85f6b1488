import DiceNotation.Proofs.Grammar.Beginning
import DiceNotation.Proofs.Reading.Acceptance

/-!
# Where reading stops for want of something else

When reading stops because something else was expected, the tokens read so far await what was expected, and it does not
stand behind them (`Stuck`). Every reader keeps to this, whatever stands in front of its text (`Halts`): the readers of
numbers and counts never stop in this way, and the others do so behind their own tokens.

* `readItem_halts`, `readExpr_halts`, `readChecker_halts`: the step lemmas of the grammar.
* `read_unexpected`: a syntax error points at a place of the text where the text before it can be repaired.
-/

namespace DiceNotation

/-! ## Scanners that find nothing -/

section Scanners

variable {cs rest : List Char}

/-- Where a numeral stands, a numeral is found. -/
theorem Numeral.not_spelled_of_scan? {n : Numeral} {w : List Char} (h : scan? cs = none)
    (spelled : (Token.numeral n).Spelled w) : cs ≠ w ++ rest := by
  have found : ∀ negative c ds, c.isDigit = true → scanDigits negative (c :: ds) ≠ none := by
    intro negative c ds hc
    unfold scanDigits
    rw [List.takeWhile_cons_of_pos hc]
    exact nofun
  rintro rfl
  cases spelled with
  | numeral nonempty digits =>
    obtain ⟨negative, ds⟩ := n
    obtain ⟨c, ds, rfl⟩ := List.exists_cons_of_ne_nil nonempty
    have hc : c.isDigit = true := digits c List.mem_cons_self
    cases negative with
    | true => exact found true c (ds ++ rest) hc h
    | false =>
      have hm : ∀ u, c :: (ds ++ rest) ≠ '-' :: u := by
        intro u hu
        cases hu
        exact absurd hc (by decide)
      exact found false c (ds ++ rest) hc ((scan?_of_not_minus hm).symm.trans h)

/-- Where an operator stands, an operator is found. -/
theorem Operator.not_spelled_of_scan? {op : Operator} {w : List Char} (h : scan? cs = none)
    (spelled : (Token.operator op).Spelled w) : Text.skipGap cs ≠ w ++ rest := by
  intro hcs
  obtain ⟨c, rfl⟩ := spelled_singleton spelled
  unfold scan? at h
  rw [hcs] at h
  simp [ofChar?_eq_some.2 spelled] at h

/-- Where a comparison stands, a comparison is found. -/
theorem Compare.not_spelled_of_scan? {c : Compare} {w : List Char} (h : scan? cs = none)
    (spelled : (Token.compare c).Spelled w) : cs ≠ w ++ rest := by
  rintro rfl
  by_cases hr : rest.head? = some '='
  · obtain ⟨rest, rfl⟩ := List.head?_eq_some_iff.1 hr
    cases spelled with
    | compare c => cases c <;> cases h
    | equals => cases h
  · rw [scan?_of_spelled spelled hr] at h
    cases h

/-- Behind a numeral and the letter of a dice term without sides, no numeral stands. -/
theorem Lexeme.scanAfter_noSides {count : Numeral} (h : scanAfter count cs = (.noSides, rest)) :
    ∃ after, Layout [.diceLetter] cs after ∧ rest = Text.skipGap after ∧ Numeral.scan? rest = none := by
  obtain ⟨g, hg, hcs⟩ := exists_gap cs
  unfold scanAfter at h
  split at h
  · rename_i c after hskip
    split at h
    · rename_i hc
      have letter : Layout [.diceLetter] cs after := by
        rw [hcs, hskip]
        exact .one hg (.diceLetter (isDiceLetter_iff.1 hc)) after
      split at h
      · cases h
      · rename_i hnone
        cases h
        exact ⟨after, letter, rfl, hnone⟩
    · cases h
  · cases h

theorem Lexeme.scan_noSides (h : scan cs = (.noSides, rest)) :
    ∃ count after, Layout [.numeral count, .diceLetter] cs after ∧ rest = Text.skipGap after ∧
      Numeral.scan? rest = none := by
  unfold scan at h
  split at h
  · cases h
  · split at h
    · rename_i count mid hn
      obtain ⟨after, letter, hrest, hnone⟩ := scanAfter_noSides h
      exact ⟨count, after, (Numeral.scan?_layout hn).append letter, hrest, hnone⟩
    · cases h

theorem Lexeme.scanAfter_ne_missing {count : Numeral} : scanAfter count cs ≠ (.missing, rest) := by
  unfold scanAfter
  split
  · split
    · split <;> nofun
    · nofun
  · nofun

theorem Lexeme.scan_missing (h : scan cs = (.missing, rest)) :
    rest = Text.skipGap cs ∧ (∀ more, rest ≠ '(' :: more) ∧ Numeral.scan? rest = none := by
  unfold scan at h
  split at h
  · cases h
  · rename_i hopen
    split at h
    · exact absurd h scanAfter_ne_missing
    · rename_i hnone
      cases h
      exact ⟨rfl, hopen, hnone⟩

/-! ## What is missing -/

theorem missing_item (hopen : ∀ more, cs ≠ '(' :: more) (hnone : Numeral.scan? cs = none) :
    Expected.item.Missing cs := by
  refine ⟨fun t w more asks spelled => ?_, nofun⟩
  cases t with
  | numeral n => exact Numeral.not_spelled_of_scan? hnone spelled
  | opening =>
    cases spelled
    exact hopen more
  | diceLetter | word | operator | closing | compare => exact asks.elim

theorem missing_closing (hclose : ∀ more, cs ≠ ')' :: more) : Expected.closing.Missing cs := by
  refine ⟨fun t w more asks spelled => ?_, nofun⟩
  cases t with
  | closing =>
    cases spelled
    exact hclose more
  | numeral | diceLetter | word | operator | opening | compare => exact asks.elim

/-- Sides and targets are numerals. -/
theorem missing_numeral {expected : Expected} (h : expected = .diceSides ∨ expected = .target)
    (hnone : Numeral.scan? cs = none) : expected.Missing cs := by
  have asked : ∀ t, expected.Asks t → ∃ n, t = .numeral n := by
    intro t asks
    rcases h with rfl | rfl
    all_goals
      cases t with
      | numeral n => exact ⟨n, rfl⟩
      | diceLetter | word | operator | opening | closing | compare => exact asks.elim
  refine ⟨fun t w more asks spelled => ?_, ?_⟩
  · obtain ⟨n, rfl⟩ := asked t asks
    exact Numeral.not_spelled_of_scan? hnone spelled
  · rcases h with rfl | rfl
    all_goals exact nofun

theorem missing_operatorOrChecker (hop : Operator.scan? cs = none) (hnone : Compare.scan? (Text.skipGap cs) = none) :
    Expected.operatorOrChecker.Missing (Text.skipGap cs) := by
  refine ⟨fun t w more asks spelled => ?_, nofun⟩
  cases t with
  | operator op => exact Operator.not_spelled_of_scan? hop spelled
  | compare compare => exact Compare.not_spelled_of_scan? hnone spelled
  | numeral | diceLetter | word | opening | closing => exact asks.elim

theorem missing_endOfInput (h : cs ≠ []) : Expected.endOfInput.Missing cs := by
  refine ⟨fun t _ _ asks => ?_, fun _ => h⟩
  cases t with
  | numeral | diceLetter | word | operator | opening | closing | compare => exact asks.elim

end Scanners

/-! ## Readers that stop -/

/-- Behind some tokens and then those of a text, something is awaited, and it does not stand there. -/
def Stuck (us : List Token) (cs : List Char) (expected : Expected) (rest : List Char) : Prop :=
  ∃ ts mid, Layout ts cs mid ∧ rest = Text.skipGap mid ∧ Awaits (us ++ ts) expected ∧ expected.Missing rest

/-- Behind some tokens, reading a text stops for want of something else only where the text is stuck. -/
def Halts (us : List Token) (cs : List Char) {α : Type} (x : Except Stop α) : Prop :=
  ∀ expected rest, x = .error (.unexpected expected rest) → Stuck us cs expected rest

section Halts

variable {us ts : List Token} {cs mid rest : List Char} {expected : Expected} {α β : Type}

/-- A text is stuck at its start, behind a gap. -/
theorem Stuck.start (awaits : Awaits us expected) (missing : expected.Missing (Text.skipGap cs)) :
    Stuck us cs expected (Text.skipGap cs) := by
  refine ⟨[], cs, .nil cs, rfl, ?_, missing⟩
  rw [List.append_nil]
  exact awaits

/-- Tokens in front of a text that is stuck. -/
theorem Stuck.behind (layout : Layout ts cs mid) (h : Stuck (us ++ ts) mid expected rest) :
    Stuck us cs expected rest := by
  obtain ⟨ts', mid', layout', hrest, awaits, missing⟩ := h
  rw [List.append_assoc] at awaits
  exact ⟨ts ++ ts', mid', layout.append layout', hrest, awaits, missing⟩

theorem Halts.behind {x : Except Stop α} (layout : Layout ts cs mid) (h : Halts (us ++ ts) mid x) : Halts us cs x :=
  fun expected rest hx => (h expected rest hx).behind layout

theorem Halts.bind {x : Except Stop α} {f : α → Except Stop β} (h : Halts us cs x)
    (hf : ∀ a, x = .ok a → Halts us cs (f a)) : Halts us cs (x >>= f) := by
  cases x with
  | error stop =>
    intro expected rest hx
    cases hx
    exact h expected rest rfl
  | ok a => exact hf a rfl

theorem halts_ok (a : α) : Halts us cs (.ok a) := nofun

/-- A reader that stops where its text is stuck. -/
theorem Stuck.halts (h : Stuck us cs expected rest) :
    Halts us cs (.error (.unexpected expected rest) : Except Stop α) := by
  intro expected' rest' hx
  cases hx
  exact h

end Halts

namespace Cursor

variable {L : Limits} {c : Cursor} {us ts : List Token} {cs : List Char}

/-! ### Numbers and counts -/

theorem convert_halts (n : Numeral) : Halts us cs n.convert := by
  intro expected rest h
  unfold Numeral.convert at h
  split at h <;> cases h

theorem checkNumber_halts (n : Int) : Halts us cs (L.checkNumber n) := by
  intro expected rest h
  unfold Limits.checkNumber at h
  split at h <;> cases h

theorem countItem_halts : Halts us cs (c.countItem L) := by
  intro expected rest h
  unfold countItem at h
  split at h <;> cases h

theorem countRolls_halts (d : Dice) : Halts us cs (c.countRolls L d) := by
  intro expected rest h
  unfold countRolls at h
  split at h
  · cases h
  · split at h <;> cases h

theorem enter_halts : Halts us cs (c.enter L) := by
  intro expected rest h
  unfold enter at h
  split at h <;> cases h

theorem readDice_halts (count sides : Numeral) (a : Aggregate) : Halts us cs (readDice L count sides a c) := by
  refine (convert_halts count).bind fun count _ => (convert_halts sides).bind fun sides _ => ?_
  refine countItem_halts.bind fun c _ => ?_
  dsimp only
  split
  · exact (countRolls_halts _).bind fun c _ => halts_ok _
  · exact nofun

theorem readNumber_halts (n : Numeral) : Halts us cs (readNumber L n c) := by
  refine (convert_halts n).bind fun value _ => countItem_halts.bind fun c _ => ?_
  exact (checkNumber_halts value).bind fun _ _ => halts_ok _

/-! ### Items and rows -/

/-- A group stops where the expression in it does, or where its closing parenthesis is missing. -/
theorem readGroup_halts {expr : Cursor → Except Stop (Expr × Cursor)} (before : Open us) (derives : Derives expr)
    (hexpr : ∀ c', c'.rest = c.rest → Halts (us ++ [.opening]) c'.rest (expr c')) :
    Halts (us ++ [.opening]) c.rest (readGroup L expr c) := by
  unfold readGroup
  refine enter_halts.bind fun c₁ henter => ?_
  obtain ⟨-, rfl⟩ := enter_ok henter
  refine (hexpr { c with depth := c.depth + 1 } rfl).bind fun r hr => ?_
  obtain ⟨e, inner⟩ := r
  obtain ⟨ts, row, -, layout⟩ := derives _ _ _ hr
  dsimp only
  split
  · exact halts_ok _
  · rename_i rest hclose
    have awaits : Awaits ((us ++ [.opening]) ++ ts) .closing := by
      rw [List.append_assoc]
      exact .closing before row
    exact Stuck.halts ((Stuck.start awaits (missing_closing hclose)).behind layout)

/-- An item stops where an item may stand, at the sides of a dice term, or in its group. -/
theorem readItem_halts {expr : Cursor → Except Stop (Expr × Cursor)} (before : Open us) (derives : Derives expr)
    (hexpr : ∀ us c', Open us → c'.rest.length < c.rest.length → Halts us c'.rest (expr c')) :
    Halts us c.rest (readItem L expr c) := by
  unfold readItem
  split
  · rename_i rest hscan
    obtain ⟨_, tokens, layout⟩ := Lexeme.scan_layout hscan nofun nofun
    cases tokens
    -- the text in the group is shorter by its parenthesis
    have hlen := layout.length_le
    rw [List.length_singleton] at hlen
    refine Halts.behind layout (readGroup_halts (c := c.moveTo rest) before derives fun c' hc' => ?_)
    refine hexpr _ c' before.opening ?_
    rw [hc']
    show rest.length < c.rest.length
    omega
  · exact readDice_halts _ _ _
  · rename_i rest hscan
    obtain ⟨count, after, layout, hrest, hnone⟩ := Lexeme.scan_noSides hscan
    exact Stuck.halts ⟨_, after, layout, hrest, .diceSides before count, missing_numeral (.inl rfl) hnone⟩
  · exact readNumber_halts _
  · rename_i rest hscan
    obtain ⟨hrest, hopen, hnone⟩ := Lexeme.scan_missing hscan
    subst hrest
    exact Stuck.halts (Stuck.start (.item before) (missing_item hopen hnone))

/-- A row stops in one of its items; behind an operator, the items before it are among the tokens in front. -/
theorem readExpr_halts : ∀ (fuel : Nat) (before : Option (Expr × Operator)) (us : List Token) (c : Cursor), Open us →
    c.rest.length < fuel → Halts us c.rest (readExpr L fuel before c)
  | 0, _, _, _, _, h => absurd h (Nat.not_lt_zero _)
  | fuel + 1, before, us, c, hopen, h => by
    have hinner : ∀ us c', Open us → c'.rest.length < c.rest.length →
        Halts us c'.rest (readExpr L fuel none c') := by
      intro us c' hopen' hlt
      exact readExpr_halts fuel none us c' hopen' (by omega)
    unfold readExpr
    refine (readItem_halts hopen (derives_readExpr fuel) hinner).bind fun r hr => ?_
    obtain ⟨item, c₁⟩ := r
    obtain ⟨ts, tree, -, layout⟩ := readItem_sound (derives_readExpr fuel) hr
    dsimp only
    split
    · rename_i op rest hop
      -- the item and the operator join the tokens in front, behind which an expression may stand again
      have hlen := length_lt_of_readItem (derives_readExpr fuel) hr
      have hlen' := length_lt_of_scan hop
      have hrest : rest.length < fuel := by omega
      refine Halts.behind (layout.append (Operator.scan?_layout hop)) ?_
      exact readExpr_halts fuel _ _ (c₁.moveTo rest) (hopen.operator tree op) hrest
    · exact halts_ok _

/-- No operator stands behind a row that has been read. -/
theorem scan?_of_readExpr {e : Expr} {c' : Cursor} : ∀ {fuel : Nat} {before : Option (Expr × Operator)} {c : Cursor},
    readExpr L fuel before c = .ok (e, c') → Operator.scan? c'.rest = none
  | 0, _, _, h => by cases h
  | fuel + 1, before, c, h => by
    unfold readExpr at h
    obtain ⟨⟨item, c₁⟩, -, h⟩ := bind_eq_ok.1 h
    dsimp only at h
    split at h
    · exact scan?_of_readExpr h
    · rename_i hnone
      cases h
      exact hnone

/-! ### Checkers -/

theorem readTarget_halts {e : Expr} (row : ExprOf us e) (compare : Compare) :
    Halts (us ++ [.compare compare]) c.rest (readTarget L compare c) := by
  unfold readTarget
  split
  · exact (convert_halts _).bind fun target _ => (checkNumber_halts target).bind fun _ _ => halts_ok _
  · rename_i hnone
    exact Stuck.halts (Stuck.start (.target row compare) (missing_numeral (.inr rfl) hnone))

/-- Behind a row, reading stops where neither an operator nor a comparison stands, at the target, or behind it. -/
theorem readChecker_halts {e : Expr} (row : ExprOf us e) (hop : Operator.scan? c.rest = none) :
    Halts us c.rest (c.readChecker L) := by
  obtain ⟨g, hg, hrest⟩ := exists_gap c.rest
  unfold readChecker
  split
  · exact halts_ok _
  · split
    · rename_i hnone
      exact Stuck.halts (Stuck.start (.operatorOrChecker row) (missing_operatorOrChecker hop hnone))
    · rename_i compare tail hcompare
      obtain ⟨w, spelled, hw⟩ := Compare.scan?_spelled hcompare
      have first : Layout [.compare compare] c.rest tail := by
        rw [hrest, hw]
        exact .one hg spelled tail
      refine Halts.bind ((readTarget_halts row compare).behind first) fun r hr => ?_
      obtain ⟨checker, c₁⟩ := r
      obtain ⟨target, -, layout, -⟩ := readTarget_ok hr
      dsimp only
      split
      · exact halts_ok _
      · rename_i hne
        exact Stuck.halts ⟨[.compare compare, .numeral target], c₁.rest, first.append layout, rfl,
          .endOfInput row compare target, missing_endOfInput hne⟩

end Cursor

/-- Reading the characters of a command stops only where they are stuck. -/
theorem readChars_halts (L : Limits) (cs : List Char) : Halts [] cs (readChars L cs) := by
  have hexpr := Cursor.readExpr_halts (L := L) (cs.length + 1) none [] ⟨cs, 0, 0, 0⟩ open_nil (Nat.lt_succ_self _)
  refine hexpr.bind fun r hr => ?_
  obtain ⟨e, c⟩ := r
  obtain ⟨ts, row, -, layout⟩ := Cursor.derives_readExpr _ _ _ _ hr
  have hchecker : Halts ts c.rest (c.readChecker L) := Cursor.readChecker_halts row (Cursor.scan?_of_readExpr hr)
  exact Halts.bind (.behind layout hchecker) fun _ _ => halts_ok _

/-- A text that is stuck is divided at the place: what is before it can be repaired, and what is behind it lacks what is
awaited and is not blank in front. -/
theorem Stuck.divided {cs : List Char} {expected : Expected} {rest : List Char} (h : Stuck [] cs expected rest) :
    ∃ before, cs = before ++ rest ∧ (∀ c ∈ rest.head?, Text.isGap c = false) ∧ expected.Missing rest ∧
      expected.Repairable before := by
  obtain ⟨ts, mid, layout, rfl, awaits, missing⟩ := h
  obtain ⟨ds, rfl, spelling⟩ := layout.exists_spelling
  obtain ⟨g, hg, hmid⟩ := exists_gap mid
  refine ⟨ds ++ g, ?_, ?_, missing, awaits.repairable spelling hg⟩
  · rw [List.append_assoc, ← hmid]
  · intro c hc
    have hhead := List.head?_dropWhile_not Text.isGap mid
    rw [show (mid.dropWhile Text.isGap).head? = some c from hc] at hhead
    exact hhead

/-! ## Commands -/

/-- A text that is refused for its syntax is blank, or reading its characters stops for want of something else. -/
theorem unexpected_of_read {L : Limits} {text : String} {err : SyntaxError}
    (notBlank : text.toList.all Text.isBlank = false) (refused : read L text = .error (.syntactic err)) :
    ∃ expected rest, readChars L text.toList = .error (.unexpected expected rest) ∧
      err = .unexpected text (text.length - rest.length) expected := by
  rw [read_of_not_blank notBlank] at refused
  cases hchars : readChars L text.toList with
  | ok r =>
    rw [hchars] at refused
    cases (Reading.noted_eq_error.1 refused).2
  | error stop =>
    rw [hchars] at refused
    cases stop with
    | unexpected expected rest => cases refused; exact ⟨expected, rest, rfl, rfl⟩
    | overLimit e => cases refused
    | digits e => cases refused

/-- **A syntax error points at a place where the text before it can be repaired.** Let a text that is not blank be
refused for its syntax. The position of the error is in the text or at its end, where no space and no tab stands. What
is said to be expected does not stand there, and the text before it can be repaired by it. -/
theorem read_unexpected {L : Limits} {text : String} {err : SyntaxError}
    (notBlank : text.toList.all Text.isBlank = false) (refused : read L text = .error (.syntactic err)) :
    ∃ (position : Nat) (expected : Expected), err = .unexpected text position expected ∧ position ≤ text.length ∧
      (∀ c ∈ text.toList[position]?, c ≠ ' ' ∧ c ≠ '\t') ∧ expected.Missing (text.toList.drop position) ∧
      expected.Repairable (text.toList.take position) := by
  obtain ⟨expected, rest, hchars, rfl⟩ := unexpected_of_read notBlank refused
  obtain ⟨before, htext, hhead, missing, repairable⟩ := (readChars_halts L _ _ _ hchars).divided
  have hlen : text.length = before.length + rest.length := by
    rw [← String.length_toList, htext, List.length_append]
  refine ⟨before.length, expected, ?_, by omega, ?_, ?_, ?_⟩
  · congr 1
    omega
  · intro c hc
    rw [htext, List.getElem?_append_right (Nat.le_refl _), Nat.sub_self, ← List.head?_eq_getElem?] at hc
    have hgap := hhead c hc
    constructor
    · rintro rfl
      exact absurd hgap (by decide)
    · rintro rfl
      exact absurd hgap (by decide)
  · rw [htext, List.drop_left]
    exact missing
  · rw [htext, List.take_left]
    exact repairable

/-- In an open group the sides of a dice term are missing in front of a minus sign: up to there, and behind a tab, the
text is the beginning of a sentence that goes on with sides. -/
theorem read_unexpected_sides :
    "((3D6 max x 2) - 4 d\t-) > 1".toList.all Text.isBlank = false ∧
      read .standard "((3D6 max x 2) - 4 d\t-) > 1" =
        .error (.syntactic (.unexpected "((3D6 max x 2) - 4 d\t-) > 1" 21 .diceSides)) ∧
      Expected.diceSides.Missing "-) > 1".toList ∧
      ∃ more, IsSentence ("((3D6 max x 2) - 4 d\t".toList ++ '1' :: more) := by
  have notBlank : "((3D6 max x 2) - 4 d\t-) > 1".toList.all Text.isBlank = false := by decide
  have refused : read .standard "((3D6 max x 2) - 4 d\t-) > 1" =
      .error (.syntactic (.unexpected "((3D6 max x 2) - 4 d\t-) > 1" 21 .diceSides)) := by decide +kernel
  obtain ⟨position, expected, herr, -, -, missing, repairable⟩ := read_unexpected notBlank refused
  obtain ⟨-, hposition, rfl⟩ := SyntaxError.unexpected.inj herr
  obtain rfl : position = 21 := by omega
  have hbehind : "((3D6 max x 2) - 4 d\t-) > 1".toList.drop 21 = "-) > 1".toList := by decide
  have hbefore : "((3D6 max x 2) - 4 d\t-) > 1".toList.take 21 = "((3D6 max x 2) - 4 d\t".toList := by decide
  rw [hbehind] at missing
  rw [hbefore] at repairable
  exact ⟨notBlank, refused, missing, repairable⟩

end DiceNotation
