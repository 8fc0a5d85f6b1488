import DiceNotation.Proofs.Reading.Acceptance
import DiceNotation.Proofs.Recursion

/-!
# How deep reading goes

The reader of expressions is called for a command, and again for each group. The calls that have not come to their end
are nested in each other, one for each open group besides the outermost, and the cursor counts the open groups. So the
bound on open groups bounds how deep the calls are nested, on every text.

* `Layout.parentheses`, `ItemOf.balanced`: the parentheses of a text and those of an item.
* `depth_of_readItem`, `depth_of_readExpr`, `depth_of_readChecker`: what is read to its end leaves the count of open groups.
* `InRow`, `Enters`, `Active`: the calls of the reader of expressions, and the calls that are nested at some moment.
* `rowBy_of_enters`: a row depends on the reader of expressions where it is called and nowhere else.
* `Active.depth_eq`, `Active.opened`: the cursor of the innermost call counts the others, and the open parentheses.
* `checkedReader_eq`, `nested_rowBy`: the reader checked where it is called, and the reader cut off at the bound.
* `read_depth_bounded`: all together, and what it means for what is read.
-/

namespace DiceNotation

/-! ## Parentheses -/

section Parentheses

/-- A character that is not of some kind does not occur among characters of this kind. -/
theorem count_eq_zero_of_forall {kind : Char → Bool} {cs : List Char} (h : ∀ c ∈ cs, kind c = true) {c : Char}
    (hc : kind c = false) : cs.count c = 0 :=
  List.count_eq_zero.2 fun hmem => Bool.false_ne_true (hc.symm.trans (h c hmem))

/-- No token has a parenthesis among its characters, but for the parentheses. -/
theorem Token.Spelled.count_parentheses {t : Token} {w : List Char} (h : t.Spelled w) :
    w.count '(' = [t].count .opening ∧ w.count ')' = [t].count .closing := by
  cases h with
  | @numeral n nonempty digits =>
    have hopening := count_eq_zero_of_forall digits (show '('.isDigit = false by decide)
    have hclosing := count_eq_zero_of_forall digits (show ')'.isDigit = false by decide)
    unfold Numeral.chars
    cases n.negative <;> simp [hopening, hclosing]
  | @word a w letters =>
    -- lower case keeps a parenthesis, and there is none in a word
    have hnot : ∀ c : Char, c.toLower = c → c ∉ a.word.toList → c ∉ w := by
      intro c hc hword hmem
      rw [← letters] at hword
      exact hword (hc ▸ List.mem_map_of_mem hmem)
    have hopening := hnot '(' (by decide) (by cases a <;> decide)
    have hclosing := hnot ')' (by decide) (by cases a <;> decide)
    simp [List.count_eq_zero.2 hopening, List.count_eq_zero.2 hclosing]
  | diceLetter letter => rcases letter with rfl | rfl <;> decide
  | operator op => cases op <;> decide
  | times letter => rcases letter with rfl | rfl <;> decide
  | opening | closing | equals => decide
  | compare c => cases c <;> decide

/-- The parentheses in a text are those among its tokens. -/
theorem Layout.parentheses {ts : List Token} {cs rest : List Char} (h : Layout ts cs rest) :
    ∃ us, cs = us ++ rest ∧ us.count '(' = ts.count .opening ∧ us.count ')' = ts.count .closing := by
  induction h with
  | nil rest => exact ⟨[], rfl, rfl, rfl⟩
  | @cons t ts g w cs rest gap spelled _ ih =>
    obtain ⟨us, rfl, hopening, hclosing⟩ := ih
    obtain ⟨hw, hw'⟩ := spelled.count_parentheses
    have hcount : ∀ (c : Char) (u : Token), Text.isGap c = false → w.count c = [t].count u → us.count c = ts.count u →
        (g ++ (w ++ us)).count c = (t :: ts).count u := by
      intro c u hc hw hus
      rw [List.count_append, count_eq_zero_of_forall gap hc, Nat.zero_add, List.count_append, hw, hus,
        ← List.count_append, List.singleton_append]
    exact ⟨g ++ (w ++ us), by simp, hcount _ _ (by decide) hw hopening, hcount _ _ (by decide) hw' hclosing⟩

mutual

theorem ItemOf.balanced : ∀ {ts : List Token} {item : Item}, ItemOf ts item → ts.count .opening = ts.count .closing
  | _, _, .number _ | _, _, .dice _ _ | _, _, .diceWith _ _ _ => rfl
  | _, _, .group inner => by
    have hinner := ExprOf.balanced inner
    simp [hinner]

/-- In an item as many parentheses are opened as are closed. -/
theorem ExprOf.balanced : ∀ {ts : List Token} {e : Expr}, ExprOf ts e → ts.count .opening = ts.count .closing
  | _, _, .single only => ItemOf.balanced only
  | _, _, .snoc _ row last => by
    have hrow := ExprOf.balanced row
    have hlast := ItemOf.balanced last
    simp [hrow, hlast]

end

end Parentheses

/-! ## The count of open groups -/

namespace Cursor

variable {L : Limits} {c c' : Cursor} {item : Item}

/-- A reader of expressions that leaves the count of open groups as it was. -/
def KeepsDepth (expr : Cursor → Except Stop (Expr × Cursor)) : Prop :=
  ∀ c e c', expr c = .ok (e, c') → c'.depth = c.depth

theorem depth_of_readItem {expr : Cursor → Except Stop (Expr × Cursor)} (hexpr : KeepsDepth expr)
    (h : readItem L expr c = .ok (item, c')) : c'.depth = c.depth := by
  unfold readItem at h
  split at h
  · obtain ⟨e, inner, rest, hinner, -, -, rfl⟩ := readGroup_ok h
    have hdepth : inner.depth = c.depth + 1 := hexpr _ _ _ hinner
    show inner.depth - 1 = c.depth
    rw [hdepth, Nat.add_sub_cancel]
  · obtain ⟨-, -, rfl⟩ := readDice_ok h
    rfl
  · cases h
  · obtain ⟨-, -, rfl⟩ := readNumber_ok h
    rfl
  · cases h

/-- Every group that is opened in a row is closed in it. -/
theorem depth_of_readExpr : ∀ (fuel : Nat) (before : Option (Expr × Operator)) (c c' : Cursor) (e : Expr),
    readExpr L fuel before c = .ok (e, c') → c'.depth = c.depth
  | 0, _, _, _, _, h => by cases h
  | fuel + 1, before, c, c', e, h => by
    have hinner : KeepsDepth (readExpr L fuel none) := fun c e c' h => depth_of_readExpr fuel none c c' e h
    unfold readExpr at h
    obtain ⟨⟨item, c₁⟩, hitem, h⟩ := bind_eq_ok.1 h
    have hdepth := depth_of_readItem hinner hitem
    dsimp only at h
    split at h
    · exact (depth_of_readExpr fuel _ _ c' e h).trans hdepth
    · cases h
      exact hdepth

theorem keepsDepth_readRow : KeepsDepth (readRow L none) :=
  fun c e c' h => depth_of_readExpr _ none c c' e h

theorem depth_of_readTarget {compare : Compare} {checker : Checker} (h : readTarget L compare c = .ok (checker, c')) :
    c'.depth = c.depth := by
  unfold readTarget at h
  split at h
  · obtain ⟨_, -, h⟩ := bind_eq_ok.1 h
    obtain ⟨_, -, h⟩ := bind_eq_ok.1 h
    cases h
    rfl
  · cases h

theorem depth_of_readChecker {checker : Option Checker} (h : c.readChecker L = .ok (checker, c')) :
    c'.depth = c.depth := by
  unfold readChecker at h
  split at h
  · cases h
    rfl
  · split at h
    · cases h
    · obtain ⟨⟨k, c₁⟩, htarget, h⟩ := bind_eq_ok.1 h
      have hdepth := depth_of_readTarget htarget
      dsimp only at h
      split at h
      · cases h
        exact hdepth
      · cases h

end Cursor

/-! ## Calls -/

open Cursor

/-- The cursors in front of the items of the row that starts at a cursor, as far as reading gets in it. -/
inductive InRow (L : Limits) (start : Cursor) : Cursor → Prop
  | first : InRow L start start
  | next {c c' : Cursor} {item : Item} {op : Operator} {rest : List Char} (place : InRow L start c)
      (read : readItem L (readRow L none) c = .ok (item, c')) (scan : Operator.scan? c'.rest = some (op, rest)) :
      InRow L start (c'.moveTo rest)

/-- To read the row at a cursor the reader of expressions is called from another one, behind a parenthesis. -/
def Enters (L : Limits) (start inner : Cursor) : Prop :=
  ∃ c rest, InRow L start c ∧ Lexeme.scan c.rest = (.opening, rest) ∧ (c.moveTo rest).enter L = .ok inner

/-- The cursors from which the reader of expressions was called in the calls that are nested in each other at some
moment, the innermost one first. -/
inductive Active (L : Limits) (cs : List Char) : List Cursor → Prop
  | command : Active L cs [⟨cs, 0, 0, 0⟩]
  | group {c inner : Cursor} {outer : List Cursor} (around : Active L cs (c :: outer)) (call : Enters L c inner) :
      Active L cs (inner :: c :: outer)

section Calls

variable {L : Limits} {cs : List Char} {start c c' inner : Cursor} {outer : List Cursor}

theorem InRow.depth_eq (h : InRow L start c) : c.depth = start.depth := by
  induction h with
  | first => rfl
  | next _ read _ ih => exact (depth_of_readItem keepsDepth_readRow read).trans ih

/-- A call opens one group more, and not more of them than are allowed. -/
theorem Enters.depth_eq (h : Enters L start inner) : inner.depth = start.depth + 1 ∧ inner.depth ≤ L.depth := by
  obtain ⟨c, rest, place, -, henter⟩ := h
  obtain ⟨hle, rfl⟩ := enter_ok henter
  exact ⟨congrArg (· + 1) place.depth_eq, hle⟩

/-- The cursor of the innermost call counts the calls around it, and it does not count more than are allowed. -/
theorem Active.depth_eq : ∀ {c : Cursor} {outer : List Cursor}, Active L cs (c :: outer) →
    c.depth = outer.length ∧ c.depth ≤ L.depth
  | _, _, .command => ⟨rfl, Nat.zero_le _⟩
  | _, _, .group around call => by
    obtain ⟨hdepth, hle⟩ := call.depth_eq
    exact ⟨hdepth.trans (congrArg (· + 1) around.depth_eq.1), hle⟩

/-! ### Open parentheses -/

/-- In the text between two cursors as many more parentheses are opened than closed as the count of open groups grows. -/
def Opens (c c' : Cursor) : Prop :=
  ∃ us, c.rest = us ++ c'.rest ∧ us.count '(' + c.depth = us.count ')' + c'.depth

theorem Opens.trans {c'' : Cursor} (h : Opens c c') (h' : Opens c' c'') : Opens c c'' := by
  obtain ⟨us, hrest, hcount⟩ := h
  obtain ⟨vs, hrest', hcount'⟩ := h'
  refine ⟨us ++ vs, ?_, ?_⟩
  · rw [hrest, hrest', List.append_assoc]
  · rw [List.count_append, List.count_append]
    omega

/-- Tokens between two cursors. -/
theorem Layout.opens {ts : List Token} (h : Layout ts c.rest c'.rest)
    (hcount : ts.count .opening + c.depth = ts.count .closing + c'.depth) : Opens c c' := by
  obtain ⟨us, hrest, hopening, hclosing⟩ := h.parentheses
  exact ⟨us, hrest, by rw [hopening, hclosing, hcount]⟩

theorem InRow.opens (h : InRow L start c) : Opens start c := by
  induction h with
  | first => exact ⟨[], rfl, rfl⟩
  | @next c c' item op rest _ read scan ih =>
    have derives : Derives (readRow L none) := fun c e c' => derives_readExpr _ c e c'
    obtain ⟨ts, tree, -, layout⟩ := readItem_sound derives read
    have hdepth := depth_of_readItem keepsDepth_readRow read
    have hitem : Opens c c' := layout.opens (by rw [tree.balanced, hdepth])
    have hop : Opens c' (c'.moveTo rest) := (Operator.scan?_layout scan).opens rfl
    exact ih.trans (hitem.trans hop)

theorem Enters.opens (h : Enters L start inner) : Opens start inner := by
  obtain ⟨c, rest, place, hscan, henter⟩ := h
  obtain ⟨ts, tokens, layout⟩ := Lexeme.scan_layout hscan nofun nofun
  cases tokens
  obtain ⟨-, rfl⟩ := enter_ok henter
  have hopening : Opens c { c.moveTo rest with depth := (c.moveTo rest).depth + 1 } := by
    refine layout.opens ?_
    show 1 + c.depth = 0 + (c.depth + 1)
    omega
  exact place.opens.trans hopening

/-- The cursor of the innermost call counts the parentheses that are open in front of it. -/
theorem Active.opened : ∀ {c : Cursor} {outer : List Cursor}, Active L cs (c :: outer) → Opens ⟨cs, 0, 0, 0⟩ c
  | _, _, .command => ⟨[], rfl, rfl⟩
  | _, _, .group around call => around.opened.trans call.opens

end Calls

/-! ## Reading that is cut off -/

section CutOff

variable (L : Limits)

/-- The rest of a row from its next item on, by a reader for the expressions of groups. -/
def itemsBy (expr : Cursor → Except Stop (Expr × Cursor)) : Nat → Option (Expr × Operator) → Cursor →
    Except Stop (Expr × Cursor)
  | 0, _, c => .error (.unexpected .item c.rest)
  | fuel + 1, before, c => do
    let (item, c) ← readItem L expr c
    match Operator.scan? c.rest with
    | some (op, rest) => itemsBy expr fuel (some (Expr.join before item, op)) (c.moveTo rest)
    | none => return (Expr.join before item, c)

/-- A row, by a reader for the expressions of groups. -/
def rowBy (expr : Cursor → Except Stop (Expr × Cursor)) (c : Cursor) : Except Stop (Expr × Cursor) :=
  itemsBy L expr (c.rest.length + 1) none c

/-- A command, by a reader for its expression. -/
def readBy (expr : Cursor → Except Stop (Expr × Cursor)) (source : String) : Except ReadError Reading :=
  if source.toList.all Text.isBlank then .error (.syntactic (.blank source))
  else do
    let reading ← Except.mapError (Stop.inText source) do
      let (e, c) ← expr ⟨source.toList, 0, 0, 0⟩
      let (checker, c) ← c.readChecker L
      return (⟨e, checker, c.items, c.rolls⟩ : Reading)
    reading.noted

theorem readBy_readRow (source : String) : readBy L (readRow L none) source = read L source := rfl

variable {L} {start : Cursor}

/-- An item depends on the reader of expressions only behind the parenthesis that it starts with. -/
theorem readItem_of_enter {f g : Cursor → Except Stop (Expr × Cursor)} {c : Cursor}
    (h : ∀ rest inner, Lexeme.scan c.rest = (.opening, rest) → (c.moveTo rest).enter L = .ok inner → f inner = g inner) :
    readItem L f c = readItem L g c := by
  unfold readItem
  split
  · rename_i rest hscan
    unfold readGroup
    cases henter : (c.moveTo rest).enter L with
    | error stop => rfl
    | ok inner =>
      show (f inner >>= _) = (g inner >>= _)
      rw [h rest inner hscan henter]
  all_goals rfl

theorem itemsBy_of_enters {f : Cursor → Except Stop (Expr × Cursor)}
    (h : ∀ inner, Enters L start inner → f inner = readRow L none inner) : ∀ {fuel : Nat}
    {before : Option (Expr × Operator)} {c : Cursor}, InRow L start c → c.rest.length < fuel →
      itemsBy L f fuel before c = readRow L before c
  | 0, _, _, _, hfuel => absurd hfuel (Nat.not_lt_zero _)
  | fuel + 1, before, c, place, hfuel => by
    have hitem : readItem L f c = readItem L (readRow L none) c :=
      readItem_of_enter fun rest inner hscan henter => h inner ⟨c, rest, place, hscan, henter⟩
    rw [readRow_eq, itemsBy, hitem]
    cases hc : readItem L (readRow L none) c with
    | error stop => rfl
    | ok r =>
      obtain ⟨item, c₁⟩ := r
      have hlen := length_lt_of_readItem (fun c e c' => derives_readExpr _ c e c') hc
      cases hop : Operator.scan? c₁.rest with
      | none =>
        simp only [bind, Except.bind, hop, resume_of_none hop]
        rfl
      | some p =>
        obtain ⟨op, rest⟩ := p
        have hlen' := length_lt_of_scan hop
        simp only [bind, Except.bind, hop, resume_of_scan hop]
        exact itemsBy_of_enters h (place.next hc hop) (show rest.length < fuel by omega)

/-- A row depends on the reader of expressions where it is called, and nowhere else. -/
theorem rowBy_of_enters {f : Cursor → Except Stop (Expr × Cursor)}
    (h : ∀ inner, Enters L start inner → f inner = readRow L none inner) : rowBy L f start = readRow L none start :=
  itemsBy_of_enters h .first (Nat.lt_succ_self _)

/-- From a cursor at which some groups are open, as many calls can be nested as groups may still be opened, and one. -/
theorem nested_rowBy (cut : Cursor → Except Stop (Expr × Cursor)) {n : Nat} {c : Cursor} (h : L.depth - c.depth < n) :
    nested (rowBy L) cut n c = readRow L none c := by
  have hbody : ∀ (expr : Cursor → Except Stop (Expr × Cursor)) (c : Cursor),
      (∀ inner : Cursor, L.depth - inner.depth < L.depth - c.depth → expr inner = readRow L none inner) →
        rowBy L expr c = readRow L none c := by
    intro expr c hexpr
    refine rowBy_of_enters fun inner call => ?_
    obtain ⟨hdepth, hle⟩ := call.depth_eq
    exact hexpr inner (by omega)
  exact nested_eq hbody cut h

/-- The reader of expressions, checked where it is called with so many groups open: the cursor has to count these groups,
within the bound. A call that does not pass the check, and one that is nested deeper than so many levels, is answered by
something else. -/
def checkedReader (L : Limits) (otherwise : Cursor → Except Stop (Expr × Cursor)) : Nat → Nat → Cursor →
    Except Stop (Expr × Cursor)
  | 0, _, c => otherwise c
  | levels + 1, groups, c =>
    if c.depth = groups ∧ groups ≤ L.depth then rowBy L (checkedReader L otherwise levels (groups + 1)) c
    else otherwise c

/-- The check is passed by every call. -/
theorem checkedReader_eq (otherwise : Cursor → Except Stop (Expr × Cursor)) : ∀ {levels : Nat} {c : Cursor},
    c.depth ≤ L.depth → L.depth < levels + c.depth → checkedReader L otherwise levels c.depth c = readRow L none c
  | 0, _, hle, hlevels => absurd hle (by omega)
  | levels + 1, c, hle, hlevels => by
    rw [checkedReader, if_pos ⟨rfl, hle⟩]
    refine rowBy_of_enters fun inner call => ?_
    obtain ⟨hdepth, hle'⟩ := call.depth_eq
    rw [← hdepth]
    exact checkedReader_eq otherwise hle' (by omega)

/-- A command is read by a reader of expressions if its expression is. -/
theorem readBy_eq_read {expr : Cursor → Except Stop (Expr × Cursor)} {source : String}
    (h : expr ⟨source.toList, 0, 0, 0⟩ = readRow L none ⟨source.toList, 0, 0, 0⟩) : readBy L expr source = read L source := by
  rw [← readBy_readRow, readBy, readBy, h]

/-- Checked where it is called, reading does the same on every text. -/
theorem readBy_checkedReader (otherwise : Cursor → Except Stop (Expr × Cursor)) (source : String) :
    readBy L (checkedReader L otherwise (L.depth + 1) 0) source = read L source :=
  readBy_eq_read (checkedReader_eq otherwise (show (⟨source.toList, 0, 0, 0⟩ : Cursor).depth ≤ L.depth from Nat.zero_le _)
    (Nat.lt_succ_self _))

/-- A reader that cannot go deeper than the bound reads every text as the reader that can. -/
theorem readBy_nested (cut : Cursor → Except Stop (Expr × Cursor)) (source : String) :
    readBy L (nested (rowBy L) cut (L.depth + 1)) source = read L source :=
  readBy_eq_read (nested_rowBy cut (Nat.lt_succ_self _))

end CutOff

/-! ## Commands -/

/-- **The bound on open groups bounds how deep reading goes.** On every text, a sentence or not, and under all bounds

* the reader of expressions is never called but with a cursor that counts the calls around it, which is one for each
  open group, and the parentheses that are open in the text in front of it; and the count is within the bound,
* so that a reader that checks this wherever it is called reads the text in the same way, whatever it does otherwise;
* one call more is nested than the bound says, at most,
* and a reader that has something else in place of deeper calls reads the text in the same way;
* behind a command that is read no group is open,
* and in its expression groups are nested no deeper than the bound says. So the walk over its leaves, its rolls and the
  traces of their outcomes do not depend on what stands in place of calls that are nested deeper. -/
theorem read_depth_bounded (L : Limits) (text : String) :
    (∀ c outer, Active L text.toList (c :: outer) → c.depth = outer.length ∧
      (∃ us, text.toList = us ++ c.rest ∧ us.count '(' = us.count ')' + c.depth) ∧ c.depth ≤ L.depth) ∧
    (∀ otherwise, readBy L (checkedReader L otherwise (L.depth + 1) 0) text = read L text) ∧
    (∀ calls, Active L text.toList calls → calls.length ≤ L.depth + 1) ∧
    (∀ cut, readBy L (nested (rowBy L) cut (L.depth + 1)) text = read L text) ∧
    (∀ e c checker c', readExpr L (text.toList.length + 1) none ⟨text.toList, 0, 0, 0⟩ = .ok (e, c) →
      c.readChecker L = .ok (checker, c') → c'.depth = 0) ∧
    ∀ r, read L text = .ok r → r.expr.nesting ≤ L.depth ∧
      (∀ cut, nested Expr.leavesBy cut (L.depth + 1) r.expr = r.expr.leaves) ∧
      ∀ (σ : Type) [Source σ], (∀ cut, nested Expr.rollBy cut (L.depth + 1) r.expr = (r.expr.roll : RollM σ ExprRoll)) ∧
        ∀ (source after : σ) (o : ExprRoll), r.expr.roll source = (.ok o, after) →
          ∀ cut, nested ExprRoll.charsBy cut (L.depth + 1) o = o.chars := by
  refine ⟨?_, fun otherwise => readBy_checkedReader otherwise text, ?_, fun cut => readBy_nested cut text, ?_, ?_⟩
  · intro c outer active
    obtain ⟨hdepth, hle⟩ := active.depth_eq
    exact ⟨hdepth, active.opened, hle⟩
  · intro calls active
    cases calls with
    | nil => exact Nat.zero_le _
    | cons c outer =>
      obtain ⟨hdepth, hle⟩ := active.depth_eq
      rw [hdepth] at hle
      exact Nat.succ_le_succ hle
  · intro e c checker c' hrow hchecker
    rw [depth_of_readChecker hchecker]
    exact depth_of_readExpr _ _ _ _ _ hrow
  · intro r accepted
    obtain ⟨_, -, -, within, -, -⟩ := sentence_of_read accepted
    have hlevel : r.expr.nesting < L.depth + 1 := Nat.lt_succ_of_le within.depth
    refine ⟨within.depth, fun cut => Expr.nested_leaves cut hlevel, fun σ _ => ⟨fun cut => Expr.nested_roll cut hlevel, ?_⟩⟩
    intro source after o rolled cut
    refine ExprRoll.nested_chars cut ?_
    rw [ExprRoll.rolled_eq (Expr.yields_of_roll rolled)]
    exact hlevel

/-- Behind a group that is closed two more are opened: the innermost call starts with two open groups, the text is read,
and neither reading it nor walking over what is read goes beyond the bound. -/
theorem read_depth_bounded_siblings :
    let text := "(1) - ((2d6))"
    let c₁ : Cursor := ⟨"(2d6))".toList, 1, 0, 1⟩
    let c₂ : Cursor := ⟨"2d6))".toList, 1, 0, 2⟩
    Active .standard text.toList [c₂, c₁, ⟨text.toList, 0, 0, 0⟩] ∧ c₂.depth = 2 ∧
      (∃ us, text.toList = us ++ "2d6))".toList ∧ us.count '(' = us.count ')' + 2) ∧
      ∃ r, read .standard text = .ok r ∧ r.expr.nesting = 2 ∧ nested Expr.leavesBy (fun _ => []) 33 r.expr =
        [.number 1, .dice ⟨2, 6, .sum⟩] := by
  intro text c₁ c₂
  let c₀ : Cursor := ⟨text.toList, 0, 0, 0⟩
  have first : readItem .standard (readRow .standard none) c₀ =
      .ok (.group (.single (.number 1)), ⟨" - ((2d6))".toList, 1, 0, 0⟩) := by decide +kernel
  have minus : Operator.scan? " - ((2d6))".toList = some (.sub, " ((2d6))".toList) := by decide +kernel
  have place : InRow .standard c₀ ⟨" ((2d6))".toList, 1, 0, 0⟩ := InRow.next .first first minus
  have outerCall : Enters .standard c₀ c₁ := ⟨_, _, place, by decide +kernel, rfl⟩
  have innerCall : Enters .standard c₁ c₂ := ⟨_, _, .first, by decide +kernel, rfl⟩
  have active : Active .standard text.toList [c₂, c₁, c₀] := .group (.group .command outerCall) innerCall
  have accepted : read .standard text = .ok ⟨.snoc (.single (.group (.single (.number 1)))) .sub
      (.group (.single (.group (.single (.dice ⟨2, 6, .sum⟩))))), none, 2, 2⟩ := by decide +kernel
  obtain ⟨entered, -, -, -, -, walked⟩ := read_depth_bounded .standard text
  obtain ⟨hdepth, hopened, -⟩ := entered c₂ [c₁, c₀] active
  obtain ⟨-, hleaves, -⟩ := walked _ accepted
  exact ⟨active, hdepth, hopened, _, accepted, rfl, hleaves _⟩

end DiceNotation
