import DiceNotation.Proofs.Grammar.Scanning
import DiceNotation.Reading

/-!
# What is read is a sentence

A command that is read without an error is a sentence of the grammar, and its tree is the one read (`readChars_sound`).
Every reader is first inverted: what its success says about the text, and what it leaves of the text and of the counts
(`readDice_ok`, `readNumber_ok`, `readGroup_ok`, `readTarget_ok`).
-/

namespace DiceNotation

theorem bind_eq_ok {ε α β : Type} {x : Except ε α} {f : α → Except ε β} {b : β} :
    x >>= f = .ok b ↔ ∃ a, x = .ok a ∧ f a = .ok b := by
  cases x with
  | error e => exact iff_of_false nofun (by rintro ⟨a, h, -⟩; cases h)
  | ok a => exact ⟨fun h => ⟨a, rfl, h⟩, fun ⟨a', h, hf⟩ => by cases h; exact hf⟩

theorem Numeral.convert_eq_ok {n : Numeral} {value : Int} :
    n.convert = .ok value ↔ n.digits.length ≤ maxDigits ∧ value = n.value := by
  unfold convert read
  by_cases h : n.digits.length ≤ maxDigits
  · simp [h, eq_comm]
  · simp [h]

namespace Cursor

variable {L : Limits} {c c' : Cursor} {item : Item}

/-! ## Counts -/

theorem countItem_ok (h : c.countItem L = .ok c') :
    c.items + 1 ≤ L.itemCount ∧ c' = { c with items := c.items + 1 } := by
  unfold countItem at h
  split at h
  · rename_i hi
    cases h
    exact ⟨hi, rfl⟩
  · cases h

theorem countRolls_ok {d : Dice} (h : c.countRolls L d = .ok c') :
    c.rolls + d.rolls ≤ L.rolls ∧ c' = { c with rolls := c.rolls + d.rolls } := by
  unfold countRolls at h
  split at h
  · rename_i hr
    cases h
    exact ⟨hr, rfl⟩
  · split at h <;> cases h

theorem enter_ok (h : c.enter L = .ok c') : c.depth + 1 ≤ L.depth ∧ c' = { c with depth := c.depth + 1 } := by
  unfold enter at h
  split at h
  · rename_i hd
    cases h
    exact ⟨hd, rfl⟩
  · cases h

/-! ## Items -/

theorem readDice_ok {count sides : Numeral} {a : Aggregate} (h : readDice L count sides a c = .ok (item, c')) :
    ShortNumerals [.numeral count, .diceLetter, .numeral sides] ∧ item = .dice ⟨count.value, sides.value, a⟩ ∧
      c' = { c with items := c.items + 1, rolls := c.rolls + count.value.toNat } := by
  unfold readDice at h
  obtain ⟨_, hcount, h⟩ := bind_eq_ok.1 h
  obtain ⟨_, hsides, h⟩ := bind_eq_ok.1 h
  obtain ⟨hn, rfl⟩ := Numeral.convert_eq_ok.1 hcount
  obtain ⟨hs, rfl⟩ := Numeral.convert_eq_ok.1 hsides
  obtain ⟨_, hitem, h⟩ := bind_eq_ok.1 h
  obtain ⟨-, rfl⟩ := countItem_ok hitem
  split at h
  · obtain ⟨_, hrolls, h⟩ := bind_eq_ok.1 h
    obtain ⟨-, rfl⟩ := countRolls_ok hrolls
    cases h
    exact ⟨shortNumerals_cons.2 ⟨shortNumerals_numeral.2 hn, shortNumerals_cons.2 ⟨shortNumerals_other nofun,
      shortNumerals_numeral.2 hs⟩⟩, rfl, rfl⟩
  · cases h

theorem readNumber_ok {n : Numeral} (h : readNumber L n c = .ok (item, c')) :
    ShortNumerals [.numeral n] ∧ item = .number n.value ∧ c' = { c with items := c.items + 1 } := by
  unfold readNumber at h
  obtain ⟨_, hvalue, h⟩ := bind_eq_ok.1 h
  obtain ⟨hn, rfl⟩ := Numeral.convert_eq_ok.1 hvalue
  obtain ⟨_, hitem, h⟩ := bind_eq_ok.1 h
  obtain ⟨-, rfl⟩ := countItem_ok hitem
  obtain ⟨_, -, h⟩ := bind_eq_ok.1 h
  cases h
  exact ⟨shortNumerals_numeral.2 hn, rfl, rfl⟩

theorem readGroup_ok {expr : Cursor → Except Stop (Expr × Cursor)} (h : readGroup L expr c = .ok (item, c')) :
    ∃ e inner rest, expr { c with depth := c.depth + 1 } = .ok (e, inner) ∧ item = .group e ∧
      Layout [.closing] inner.rest rest ∧ c' = (inner.moveTo rest).leave := by
  unfold readGroup at h
  obtain ⟨_, henter, h⟩ := bind_eq_ok.1 h
  obtain ⟨-, rfl⟩ := enter_ok henter
  obtain ⟨⟨e, inner⟩, hexpr, h⟩ := bind_eq_ok.1 h
  obtain ⟨g, hg, hgap⟩ := exists_gap inner.rest
  dsimp only at h
  split at h
  · rename_i rest hskip
    cases h
    refine ⟨e, inner, rest, hexpr, rfl, ?_, rfl⟩
    rw [hgap, hskip]
    exact .one hg .closing rest
  · cases h

/-! ## Expressions -/

/-- A reader of expressions whose successes are expressions of the grammar. -/
def Derives (expr : Cursor → Except Stop (Expr × Cursor)) : Prop :=
  ∀ c e c', expr c = .ok (e, c') → ∃ ts, ExprOf ts e ∧ ShortNumerals ts ∧ Layout ts c.rest c'.rest

theorem readItem_sound {expr : Cursor → Except Stop (Expr × Cursor)} (hexpr : Derives expr)
    (h : readItem L expr c = .ok (item, c')) :
    ∃ ts, ItemOf ts item ∧ ShortNumerals ts ∧ Layout ts c.rest c'.rest := by
  unfold readItem at h
  split at h
  · rename_i rest hscan
    obtain ⟨e, inner, tail, hinner, rfl, closing, rfl⟩ := readGroup_ok h
    obtain ⟨ts, tree, short, layout⟩ := hexpr _ _ _ hinner
    obtain ⟨_, tokens, opening⟩ := Lexeme.scan_layout hscan nofun nofun
    cases tokens
    refine ⟨_, .group tree, ?_, opening.append (layout.append closing)⟩
    rw [shortNumerals_cons, shortNumerals_append]
    exact ⟨shortNumerals_other nofun, short, shortNumerals_other nofun⟩
  · rename_i count sides a rest hscan
    obtain ⟨short, rfl, rfl⟩ := readDice_ok h
    obtain ⟨_, tokens, layout⟩ := Lexeme.scan_layout hscan nofun nofun
    cases tokens with
    | dice => exact ⟨_, .dice count sides, short, layout⟩
    | diceWith =>
      refine ⟨_, .diceWith count sides a, ?_, layout⟩
      have hword : ShortNumerals [.word a] := shortNumerals_other nofun
      exact shortNumerals_append.2 ⟨short, hword⟩
  · cases h
  · rename_i n rest hscan
    obtain ⟨short, rfl, rfl⟩ := readNumber_ok h
    obtain ⟨_, tokens, layout⟩ := Lexeme.scan_layout hscan nofun nofun
    cases tokens
    exact ⟨_, .number n, short, layout⟩
  · cases h

/-- The tokens of the row and the operator in front of the next item. -/
def Ahead : Option (Expr × Operator) → List Token → Prop
  | none, us => us = []
  | some (row, op), us => ∃ ts, ExprOf ts row ∧ us = ts ++ [.operator op]

/-- A row with one item more. -/
theorem exprOf_join {before : Option (Expr × Operator)} {us ts : List Token} (hb : Ahead before us)
    (hi : ItemOf ts item) : ExprOf (us ++ ts) (Expr.join before item) := by
  cases before with
  | none =>
    cases hb
    exact .single hi
  | some b =>
    obtain ⟨ts', row, rfl⟩ := hb
    rw [List.append_assoc]
    exact .snoc b.2 row hi

/-- What is read behind a row and an operator prolongs the row's tokens to those of the whole. -/
theorem readExpr_sound : ∀ (fuel : Nat) (before : Option (Expr × Operator)) (us : List Token) (c c' : Cursor)
    (e : Expr), Ahead before us → readExpr L fuel before c = .ok (e, c') →
      ∃ ts, ExprOf (us ++ ts) e ∧ ShortNumerals ts ∧ Layout ts c.rest c'.rest
  | 0, _, _, _, _, _, _, h => by cases h
  | fuel + 1, before, us, c, c', e, hb, h => by
    have hinner : Derives (readExpr L fuel none) := fun c e c' h => readExpr_sound fuel none [] c c' e rfl h
    unfold readExpr at h
    obtain ⟨⟨item, c₁⟩, hitem, h⟩ := bind_eq_ok.1 h
    obtain ⟨ts, tree, short, layout⟩ := readItem_sound hinner hitem
    dsimp only at h
    split at h
    · rename_i op rest hop
      have hrow : Ahead (some (Expr.join before item, op)) (us ++ ts ++ [.operator op]) :=
        ⟨us ++ ts, exprOf_join hb tree, rfl⟩
      obtain ⟨ts', tree', short', layout'⟩ := readExpr_sound fuel _ _ _ c' e hrow h
      refine ⟨ts ++ ([.operator op] ++ ts'), ?_, ?_, ?_⟩
      · simpa only [List.append_assoc] using tree'
      · rw [shortNumerals_append, shortNumerals_append]
        exact ⟨short, shortNumerals_other nofun, short'⟩
      · exact layout.append ((Operator.scan?_layout hop).append layout')
    · cases h
      exact ⟨ts, exprOf_join hb tree, short, layout⟩

theorem derives_readExpr (fuel : Nat) : Derives (readExpr L fuel none) :=
  fun c e c' h => readExpr_sound fuel none [] c c' e rfl h

/-! ## Checkers -/

theorem readTarget_ok {compare : Compare} {checker : Checker} (h : readTarget L compare c = .ok (checker, c')) :
    ∃ n, ShortNumerals [.numeral n] ∧ Layout [.numeral n] c.rest c'.rest ∧ checker = ⟨compare, n.value⟩ := by
  unfold readTarget at h
  split at h
  · rename_i n rest hn
    obtain ⟨_, hvalue, h⟩ := bind_eq_ok.1 h
    obtain ⟨short, rfl⟩ := Numeral.convert_eq_ok.1 hvalue
    obtain ⟨_, -, h⟩ := bind_eq_ok.1 h
    cases h
    exact ⟨n, shortNumerals_numeral.2 short, Numeral.scan?_layout hn, rfl⟩
  · cases h

/-- Behind an expression stands a checker or nothing. -/
theorem readChecker_sound {ts : List Token} {e : Expr} {checker : Option Checker} (row : ExprOf ts e)
    (h : c.readChecker L = .ok (checker, c')) :
    ∃ us g, CommandOf (ts ++ us) e checker ∧ ShortNumerals us ∧ Gap g ∧ Layout us c.rest g := by
  obtain ⟨g, hg, hrest⟩ := exists_gap c.rest
  unfold readChecker at h
  split at h
  · rename_i hskip
    cases h
    refine ⟨[], c.rest, ?_, shortNumerals_nil, gap_of_skipGap_eq_nil hskip, .nil _⟩
    rw [List.append_nil]
    exact .bare row
  · split at h
    · cases h
    · rename_i compare tail hcompare
      obtain ⟨w, spelled, hw⟩ := Compare.scan?_spelled hcompare
      obtain ⟨⟨k, c₁⟩, htarget, h⟩ := bind_eq_ok.1 h
      obtain ⟨n, short, layout, rfl⟩ := readTarget_ok htarget
      dsimp only at h
      split at h
      · rename_i hskip
        cases h
        refine ⟨[.compare compare, .numeral n], c₁.rest, .checked row compare n, ?_, gap_of_skipGap_eq_nil hskip, ?_⟩
        · rw [shortNumerals_cons]
          exact ⟨shortNumerals_other nofun, short⟩
        · rw [hrest, hw]
          exact .cons hg spelled layout
      · cases h

end Cursor

/-- **Soundness**: a text that is read is a sentence, and its tree is what is read. -/
theorem readChars_sound {L : Limits} {cs : List Char} {r : Reading} (h : readChars L cs = .ok r) :
    ∃ ts, Sentence ts cs r.expr r.checker ∧ ShortNumerals ts := by
  unfold readChars at h
  obtain ⟨⟨e, c⟩, hexpr, h⟩ := bind_eq_ok.1 h
  obtain ⟨ts, row, short, layout⟩ := Cursor.derives_readExpr _ _ _ _ hexpr
  obtain ⟨⟨checker, c'⟩, hchecker, h⟩ := bind_eq_ok.1 h
  obtain ⟨us, g, tree, short', hg, layout'⟩ := Cursor.readChecker_sound row hchecker
  cases h
  exact ⟨ts ++ us, ⟨tree, g, hg, layout.append layout'⟩, shortNumerals_append.2 ⟨short, short'⟩⟩

end DiceNotation
