import DiceNotation.Proofs.Reading.Completeness

/-!
# Places that reading gets to

Reading gets through a text to places where the head of an item stands or the target of a checker. It stops there if a
numeral of the head is too long to be read, or if what the head adds to a walk exceeds a bound.

* `Front`, `Reaches`: the places that reading gets to, and what a walk over the text before them meets.
* `Head`, `stopAt`: what stands at a place, and how it stops reading.
* `readDice_eq_stopAt`, `readNumber_eq_stopAt`, `enter_eq_stopAt`, `readTarget_eq_stopAt`: the readers of heads.
* `readChars_of_item`, `readChars_of_target`: reading a text comes down to reading what stands at a place.
* `readChars_of_stoppedBy`: a text is refused for what stops reading at a place in it.
-/

namespace DiceNotation

/-! ## Places -/

/-- What is read next. -/
inductive Place where
  /-- An item, inside some open groups. -/
  | item (depth : Nat)
  | target
  deriving DecidableEq, Repr

/-- The tokens in front of a place, with what a walk over them meets. -/
inductive Front : List Token → List Visit → Place → Prop
  | start : Front [] [] (.item 0)
  | operator {us ts : List Token} {vs : List Visit} {depth : Nat} {item : Item} (before : Front us vs (.item depth))
      (first : ItemOf ts item) (op : Operator) :
      Front (us ++ (ts ++ [.operator op])) (vs ++ item.visits depth) (.item depth)
  | opening {us : List Token} {vs : List Visit} {depth : Nat} (before : Front us vs (.item depth)) :
      Front (us ++ [.opening]) (vs ++ [.opening (depth + 1)]) (.item (depth + 1))
  | target {ts : List Token} {e : Expr} (row : ExprOf ts e) (compare : Compare) :
      Front (ts ++ [.compare compare]) (e.visits 0) .target

/-- Behind these characters a numeral is at its end. -/
def Ends (cs : List Char) : Prop :=
  ∀ c ∈ cs.head?, c.isDigit = false

/-- The tokens at the start of an item, or of a target, in front of a rest, with what a walk meets there. The word behind a
dice term does not matter. -/
inductive Head : Place → List Token → List Char → Visit → Prop
  | opening (depth : Nat) (rest : List Char) : Head (.item depth) [.opening] rest (.opening (depth + 1))
  | dice (depth : Nat) (count sides : Numeral) {rest : List Char} (ends : Ends rest) :
      Head (.item depth) [.numeral count, .diceLetter, .numeral sides] rest (.dice ⟨count.value, sides.value, .sum⟩)
  | number (depth : Nat) (n : Numeral) {rest : List Char} (ends : Ends rest)
      (alone : ∀ c ∈ (Text.skipGap rest).head?, Lexeme.isDiceLetter c = false) :
      Head (.item depth) [.numeral n] rest (.number n.value)
  | target (n : Numeral) {rest : List Char} (ends : Ends rest) : Head .target [.numeral n] rest (.target n.value)

/-- The report of a numeral that is too long. -/
def Token.overlong? : Token → Option DigitError
  | .numeral n => if n.digits.length ≤ maxDigits then none else some (.read n.digits.length)
  | _ => none

/-- How the tokens at a place stop reading, behind some counts: by the first numeral that is too long, or else by the bound
that is exceeded. -/
def stopAt (L : Limits) (k : Tally) (ts : List Token) (v : Visit) : Option Stop :=
  match ts.findSome? Token.overlong? with
  | some e => some (.digits e)
  | none => (v.excess L (k.after v)).map LimitError.stop

/-- Reading gets through a text, within the bounds, to a place in it. -/
structure Reaches (L : Limits) (cs : List Char) (us : List Token) (vs : List Visit) (place : Place) (mid : List Char) :
    Prop where
  front : Front us vs place
  short : ShortNumerals us
  fits : firstExcess L {} vs = none
  layout : Layout us cs mid

/-- Something that stands at a place in a text stops reading. -/
def StoppedBy (L : Limits) (cs : List Char) (stop : Stop) : Prop :=
  ∃ us vs place mid ts rest v, Reaches L cs us vs place mid ∧ Head place ts rest v ∧ Layout ts mid rest ∧
    stopAt L (Tally.afterAll {} vs) ts v = some stop

/-! ## Numerals that are too long -/

section Overlong

variable {n : Numeral} {ts : List Token} {L : Limits} {k : Tally} {v : Visit}

theorem Token.overlong?_numeral_eq_none : (Token.numeral n).overlong? = none ↔ ShortNumerals [.numeral n] := by
  rw [shortNumerals_numeral, overlong?]
  split <;> simp_all

theorem Token.overlong?_of_long (h : ¬ShortNumerals [.numeral n]) :
    (Token.numeral n).overlong? = some (.read n.digits.length) := by
  rw [shortNumerals_numeral] at h
  exact if_neg h

theorem Numeral.convert_of_long (h : ¬ShortNumerals [.numeral n]) :
    n.convert = .error (.digits (.read n.digits.length)) := by
  rw [shortNumerals_numeral] at h
  simp only [convert, read, if_neg h]

theorem findSome?_overlong? (h : ShortNumerals ts) : ts.findSome? Token.overlong? = none := by
  rw [List.findSome?_eq_none_iff]
  intro t ht
  cases t with
  | numeral n => exact Token.overlong?_numeral_eq_none.2 (shortNumerals_numeral.2 (h n ht))
  | diceLetter | word | operator | opening | closing | compare => rfl

/-- Numerals that are short enough leave it to the bounds. -/
theorem stopAt_of_short (h : ShortNumerals ts) : stopAt L k ts v = (v.excess L (k.after v)).map LimitError.stop := by
  simp only [stopAt, findSome?_overlong? h]

/-- The first numeral that is too long is reported. -/
theorem stopAt_of_long (h : ShortNumerals ts) (hn : ¬ShortNumerals [.numeral n]) (us : List Token) :
    stopAt L k (ts ++ .numeral n :: us) v = some (.digits (.read n.digits.length)) := by
  have hfind : (ts ++ .numeral n :: us).findSome? Token.overlong? = some (.read n.digits.length) := by
    rw [List.findSome?_append, findSome?_overlong? h, List.findSome?_cons, Token.overlong?_of_long hn]
    rfl
  simp only [stopAt, hfind]

end Overlong

/-! ## What stands at a place -/

section Heads

variable {cs mid rest : List Char}

theorem Numeral.ends_of_scan? {n : Numeral} (h : scan? cs = some (n, rest)) : Ends rest := by
  have hdigits : ∀ negative cs, scanDigits negative cs = some (n, rest) → Ends rest := by
    intro negative cs h c hc
    unfold scanDigits at h
    split at h
    · cases h
    · cases h
      have hhead := List.head?_dropWhile_not Char.isDigit cs
      rw [show (cs.dropWhile Char.isDigit).head? = some c from hc] at hhead
      exact hhead
  unfold scan? at h
  split at h
  · exact hdigits _ _ h
  · exact hdigits _ _ h

namespace Lexeme

variable {count sides : Numeral} {a : Aggregate}

/-- A number that is found is a head, and no letter of a dice term stands behind it. -/
theorem head_of_number {n : Numeral} (h : scan cs = (.number n, rest)) (depth : Nat) :
    Head (.item depth) [.numeral n] rest (.number n.value) ∧ Layout [.numeral n] cs rest := by
  obtain ⟨_, tokens, layout⟩ := scan_layout h nofun nofun
  cases tokens
  refine ⟨?_, layout⟩
  unfold scan at h
  split at h
  · cases h
  · split at h
    · rename_i count mid hn
      unfold scanAfter at h
      split at h
      · rename_i c after hskip
        split at h
        · split at h <;> cases h
        · rename_i hletter
          cases h
          refine .number depth n (Numeral.ends_of_scan? hn) fun d hd => ?_
          rw [hskip] at hd
          cases hd
          exact Bool.not_eq_true _ ▸ hletter
      · rename_i hskip
        cases h
        refine .number depth n (Numeral.ends_of_scan? hn) fun d hd => ?_
        rw [hskip] at hd
        cases hd
    · cases h

/-- A dice term that is found is a head, up to its sides. -/
theorem head_of_dice (h : scan cs = (.dice count sides a, rest)) (depth : Nat) :
    ∃ rest', Head (.item depth) [.numeral count, .diceLetter, .numeral sides] rest'
      (.dice ⟨count.value, sides.value, .sum⟩) ∧ Layout [.numeral count, .diceLetter, .numeral sides] cs rest' := by
  unfold scan at h
  split at h
  · cases h
  · split at h
    · rename_i first mid hn
      obtain ⟨g, hg, hmid⟩ := exists_gap mid
      unfold scanAfter at h
      split at h
      · rename_i c after hskip
        split at h
        · rename_i hc
          have letter : Layout [.diceLetter] mid after := by
            rw [hmid, hskip]
            exact .one hg (.diceLetter (isDiceLetter_iff.1 hc)) after
          split at h
          · rename_i last tail hs
            cases h
            refine ⟨tail, .dice depth _ _ (Numeral.ends_of_scan? hs), ?_⟩
            exact (Numeral.scan?_layout hn).append (letter.append (Numeral.scan?_layout hs))
          · cases h
        · cases h
      · cases h
    · cases h

/-- Where the head of a dice term stands, it is found. -/
theorem scan_of_dice (h : Layout [.numeral count, .diceLetter, .numeral sides] cs rest) (ends : Ends rest) :
    scan cs = (.dice count sides (Aggregate.scan rest).1, (Aggregate.scan rest).2) := by
  obtain ⟨mid, hcount, tail⟩ := h.uncons
  obtain ⟨after, letter, hsides⟩ := tail.uncons
  rw [scan_of_numeral hcount (not_isDigit_of_letter letter (.inl rfl)), scanAfter_of_letter letter hsides ends]

/-- Where a numeral stands without the letter of a dice term behind it, a number is found. -/
theorem scan_of_number {n : Numeral} (h : Layout [.numeral n] cs rest) (ends : Ends rest)
    (alone : ∀ c ∈ (Text.skipGap rest).head?, isDiceLetter c = false) : scan cs = (.number n, rest) := by
  rw [scan_of_numeral h ends]
  unfold scanAfter
  split
  · rename_i c after hskip
    have hc : isDiceLetter c = false := alone c (by rw [hskip]; rfl)
    rw [if_neg (by simp [hc])]
  · rfl

end Lexeme

end Heads

/-! ## Readers at a place -/

namespace Cursor

variable {L : Limits} {c : Cursor}

@[simp] theorem tally_moveTo (rest : List Char) : (c.moveTo rest).tally = c.tally := rfl

/-- Converting a numeral, with something to do with the number. -/
theorem convert_bind_of_long {n : Numeral} (h : ¬ShortNumerals [.numeral n]) {α : Type} (f : Int → Except Stop α) :
    (n.convert >>= f) = .error (.digits (.read n.digits.length)) := by
  rw [Numeral.convert_of_long h]
  rfl

/-- Passing one visit with short numerals stops as its tokens do. -/
theorem pass_eq_stopAt {ts : List Token} (short : ShortNumerals ts) (v : Visit) {α : Type} (f : Cursor → Except Stop α) :
    (c.pass L [v] >>= f) = match stopAt L c.tally ts v with
      | some stop => .error stop
      | none => f (c.counting (c.tally.after v)) := by
  rw [stopAt_of_short short]
  cases hx : v.excess L (c.tally.after v) with
  | some e => rw [pass_one_of_some hx]; rfl
  | none => rw [pass_one_of_none hx]; rfl

/-- A dice term stops reading as its head does, and is counted if that does not. -/
theorem readDice_eq_stopAt (count sides : Numeral) (a : Aggregate) :
    readDice L count sides a c =
      match stopAt L c.tally [.numeral count, .diceLetter, .numeral sides] (.dice ⟨count.value, sides.value, .sum⟩) with
      | some stop => .error stop
      | none => .ok (.dice ⟨count.value, sides.value, a⟩,
          c.counting (c.tally.after (.dice ⟨count.value, sides.value, .sum⟩))) := by
  by_cases hcount : ShortNumerals [.numeral count]
  · by_cases hsides : ShortNumerals [.numeral sides]
    · have short : ShortNumerals [.numeral count, .diceLetter, .numeral sides] :=
        shortNumerals_cons.2 ⟨hcount, shortNumerals_cons.2 ⟨shortNumerals_other nofun, hsides⟩⟩
      -- the word has no part in what is counted
      rw [readDice_eq hcount hsides]
      exact pass_eq_stopAt short (.dice ⟨count.value, sides.value, a⟩) _
    · have before : ShortNumerals [.numeral count, .diceLetter] :=
        shortNumerals_cons.2 ⟨hcount, shortNumerals_other nofun⟩
      have hstop :=
        stopAt_of_long (L := L) (k := c.tally) (v := .dice ⟨count.value, sides.value, .sum⟩) before hsides []
      rw [List.cons_append, List.singleton_append] at hstop
      rw [readDice, Numeral.convert_of_short hcount, hstop]
      exact convert_bind_of_long hsides _
  · rw [show stopAt L _ [.numeral count, _, _] _ = _ from stopAt_of_long shortNumerals_nil hcount _]
    exact convert_bind_of_long hcount _

theorem readNumber_eq_stopAt (n : Numeral) :
    readNumber L n c =
      match stopAt L c.tally [.numeral n] (.number n.value) with
      | some stop => .error stop
      | none => .ok (.number n.value, c.counting (c.tally.after (.number n.value))) := by
  by_cases hn : ShortNumerals [.numeral n]
  · rw [readNumber_eq hn]
    exact pass_eq_stopAt hn _ _
  · rw [show stopAt L _ [.numeral n] _ = _ from stopAt_of_long shortNumerals_nil hn []]
    exact convert_bind_of_long hn _

theorem enter_eq_stopAt :
    c.enter L = match stopAt L c.tally [.opening] (.opening (c.depth + 1)) with
      | some stop => .error stop
      | none => .ok { c with depth := c.depth + 1 } := by
  have short : ShortNumerals [.opening] := shortNumerals_other nofun
  rw [enter_eq]
  exact pass_eq_stopAt short _ _

/-- The target of a comparison stops reading as its numeral does. -/
theorem readTarget_eq_stopAt {n : Numeral} {rest : List Char} (layout : Layout [.numeral n] c.rest rest)
    (ends : Ends rest) (compare : Compare) :
    readTarget L compare c =
      match stopAt L c.tally [.numeral n] (.target n.value) with
      | some stop => .error stop
      | none => .ok (⟨compare, n.value⟩, c.moveTo rest) := by
  unfold readTarget
  rw [Numeral.scan?_of_layout layout ends]
  dsimp only
  by_cases hn : ShortNumerals [.numeral n]
  · rw [Numeral.convert_of_short hn]
    have hcheck := pass_eq_stopAt (L := L) (c := c) hn (.target n.value) fun _ =>
      .ok (Checker.mk compare n.value, c.moveTo rest)
    rw [← checkTarget_eq, bind_assoc] at hcheck
    exact hcheck
  · rw [show stopAt L _ [.numeral n] _ = _ from stopAt_of_long shortNumerals_nil hn []]
    exact convert_bind_of_long hn _

/-! ## Reading gets to a place -/

/-- The cursor behind some visits, in front of the rest of a text. -/
def behind (vs : List Visit) (depth : Nat) (rest : List Char) : Cursor :=
  ⟨rest, (Tally.afterAll {} vs).items, (Tally.afterAll {} vs).rolls, depth⟩

@[simp] theorem tally_behind (vs : List Visit) (depth : Nat) (rest : List Char) :
    (behind vs depth rest).tally = Tally.afterAll {} vs := rfl

/-- Behind some visits, the cursor with more of them counted is behind them as well. -/
theorem counting_behind (vs us : List Visit) (depth : Nat) (rest : List Char) :
    (behind vs depth rest).counting ((Tally.afterAll {} vs).afterAll us) = behind (vs ++ us) depth rest := by
  simp only [behind, Tally.afterAll_append]
  rfl

theorem pass_behind {vs us : List Visit} (h : firstExcess L (Tally.afterAll {} vs) us = none) (depth : Nat)
    (rest : List Char) : (behind vs depth rest).pass L us = .ok (behind (vs ++ us) depth rest) := by
  rw [← counting_behind]
  exact pass_of_none h

/-- What is done behind more visits is done only if they are within the bounds. -/
theorem pass_behind_eq_ok {vs us : List Visit} {depth : Nat} {rest : List Char} {α : Type} {f : Cursor → Except Stop α}
    {a : α} (h : ((behind vs depth rest).pass L us >>= f) = .ok a) :
    firstExcess L (Tally.afterAll {} vs) us = none ∧ f (behind (vs ++ us) depth rest) = .ok a := by
  cases hx : firstExcess L (Tally.afterAll {} vs) us with
  | some e =>
    rw [pass_of_some (show firstExcess L (behind vs depth rest).tally us = _ from hx)] at h
    cases h
  | none =>
    rw [pass_behind hx] at h
    exact ⟨rfl, h⟩

/-- Visits within the bounds, and more of them within the bounds. -/
theorem firstExcess_append_eq_none {vs us : List Visit} : firstExcess L {} (vs ++ us) = none ↔
    firstExcess L {} vs = none ∧ firstExcess L (Tally.afterAll {} vs) us = none := by
  rw [firstExcess_append, Option.or_eq_none_iff]

theorem enter_behind {vs : List Visit} {depth : Nat}
    (h : firstExcess L (Tally.afterAll {} vs) [.opening (depth + 1)] = none) (rest : List Char) :
    (behind vs depth rest).enter L = .ok (behind (vs ++ [.opening (depth + 1)]) (depth + 1) rest) := by
  rw [enter_eq, show (behind vs depth rest).depth = depth from rfl, pass_behind h]
  rfl

/-- A group is opened, the expression in it is read, and it is closed. -/
theorem exists_readGroup_eq (L : Limits) : ∃ close : Expr × Cursor → Except Stop (Item × Cursor), ∀ expr c,
    readGroup L expr c = c.enter L >>= fun c => expr c >>= close :=
  ⟨_, fun _ _ => rfl⟩

/-- Reading a text comes down to reading a row from an item of it on, with something to do behind the row. -/
theorem readChars_of_item {cs us mid : List _} {vs : List Visit} {depth : Nat}
    (h : Reaches L cs us vs (.item depth) mid) :
    ∃ before, ∃ next : Expr × Cursor → Except Stop Reading,
      readChars L cs = readRow L before (behind vs depth mid) >>= next := by
  obtain ⟨front, short, fits, layout⟩ := h
  generalize hplace : Place.item depth = place at front
  induction front generalizing depth mid with
  | start =>
    cases hplace
    cases layout
    exact ⟨none, _, readChars_eq L cs⟩
  | @operator us ts vs depth item front first op ih =>
    cases hplace
    obtain ⟨hus, short⟩ := shortNumerals_append.1 short
    obtain ⟨hts, -⟩ := shortNumerals_append.1 short
    obtain ⟨fits, hitem⟩ := firstExcess_append_eq_none.1 fits
    obtain ⟨start, hfront, layout⟩ := layout.split
    obtain ⟨stop, hfirst, hop⟩ := layout.split
    obtain ⟨before, next, hchars⟩ := ih hus fits hfront rfl
    refine ⟨some (Expr.join before item, op), next, ?_⟩
    have hread : readItem L (readRow L none) (behind vs depth start) =
        (behind vs depth stop).pass L (item.visits depth) >>= fun c => .ok (item, c) :=
      readItem_of_layout first hts hfirst (hop.stops rfl)
    rw [pass_behind hitem] at hread
    rw [hchars, readRow_eq, hread]
    show (resume L _ (behind (vs ++ item.visits depth) depth stop) >>= _) = _
    rw [resume_of_scan (Operator.scan?_of_layout hop)]
    rfl
  | @opening us vs depth front ih =>
    cases hplace
    obtain ⟨hus, -⟩ := shortNumerals_append.1 short
    obtain ⟨fits, hopen⟩ := firstExcess_append_eq_none.1 fits
    obtain ⟨start, hfront, layout⟩ := layout.split
    obtain ⟨before, next, hchars⟩ := ih hus fits hfront rfl
    obtain ⟨close, hclose⟩ := exists_readGroup_eq L
    refine ⟨none, fun r => (close r >>= fun r => resume L (Expr.join before r.1) r.2) >>= next, ?_⟩
    have hread : readItem L (readRow L none) (behind vs depth start) =
        readGroup L (readRow L none) (behind vs depth mid) := by
      simp only [readItem, Lexeme.scan_of_opening (show Layout [.opening] (behind vs depth start).rest mid from layout)]
      rfl
    rw [hchars, readRow_eq, hread, hclose, enter_behind hopen]
    simp only [bind_assoc]
    rfl
  | target row compare => cases hplace

/-- In front of a comparison, a checker is its target and what is behind it. -/
theorem exists_readChecker_eq {compare : Compare} {c : Cursor} {mid : List Char}
    (layout : Layout [.compare compare] c.rest mid) (hmid : mid.head? ≠ some '=') :
    ∃ finish : Checker × Cursor → Except Stop (Option Checker × Cursor),
      c.readChecker L = readTarget L compare (c.moveTo mid) >>= finish := by
  obtain ⟨g, w, gap, spelled, hrest⟩ := layout.one_inv
  have hscan := Compare.scan?_of_spelled spelled hmid
  obtain ⟨d, w, rfl, -⟩ := spelled.head
  unfold readChecker
  rw [hrest, spelled.skipGap_gap_append gap]
  dsimp only [List.cons_append] at hscan ⊢
  rw [hscan]
  exact ⟨_, rfl⟩

/-- Reading a text comes down to reading the target of its checker, with something to do behind the target. -/
theorem readChars_of_target {cs us mid : List _} {vs : List Visit} (h : Reaches L cs us vs .target mid)
    (hmid : mid.head? ≠ some '=') :
    ∃ compare, ∃ next : Checker × Cursor → Except Stop Reading,
      readChars L cs = readTarget L compare (behind vs 0 mid) >>= next := by
  obtain ⟨front, short, fits, layout⟩ := h
  cases front with
  | @target ts e row compare =>
    obtain ⟨hts, -⟩ := shortNumerals_append.1 short
    obtain ⟨start, hrow, hcompare⟩ := layout.split
    obtain ⟨finish, hfinish⟩ := exists_readChecker_eq (L := L) (c := behind (e.visits 0) 0 start) hcompare hmid
    have hread : readRow L none ⟨cs, 0, 0, 0⟩ = (behind [] 0 start).pass L (e.visits 0) >>= resume L e :=
      readRow_of_layout row hts hrow (hcompare.stops rfl)
    refine ⟨compare, fun r => finish r >>= fun k => .ok ⟨e, k.1, k.2.items, k.2.rolls⟩, ?_⟩
    rw [readChars_eq, hread, pass_behind fits]
    show (resume L e (behind (e.visits 0) 0 start) >>= _) = _
    rw [resume_of_none (scan?_of_compare hcompare)]
    show (readChecker L (behind (e.visits 0) 0 start) >>= _) = _
    rw [hfinish, bind_assoc]
    rfl

/-- A head that stops reading stops the reading of the item. -/
theorem readItem_of_head {depth : Nat} {ts : List Token} {rest : List Char} {v : Visit} {stop : Stop} {c : Cursor}
    (head : Head (.item depth) ts rest v) (hdepth : c.depth = depth) (layout : Layout ts c.rest rest)
    (hstop : stopAt L c.tally ts v = some stop) (expr : Cursor → Except Stop (Expr × Cursor)) :
    readItem L expr c = .error stop := by
  subst hdepth
  unfold readItem
  cases head with
  | opening =>
    rw [Lexeme.scan_of_opening layout]
    have hdepth : (c.moveTo rest).depth = c.depth := rfl
    simp only [readGroup, enter_eq_stopAt, tally_moveTo, hdepth, hstop]
    rfl
  | dice _ count sides ends =>
    rw [Lexeme.scan_of_dice layout ends]
    simp only [readDice_eq_stopAt, tally_moveTo, hstop]
  | number _ n ends alone =>
    rw [Lexeme.scan_of_number layout ends alone]
    simp only [readNumber_eq_stopAt, tally_moveTo, hstop]

end Cursor

/-- **What stands at a place and stops reading** is what the text is refused for. -/
theorem readChars_of_stoppedBy {L : Limits} {cs : List Char} {stop : Stop} (h : StoppedBy L cs stop) :
    readChars L cs = .error stop := by
  obtain ⟨us, vs, place, mid, ts, rest, v, reaches, head, layout, hstop⟩ := h
  cases place with
  | item depth =>
    obtain ⟨before, next, hchars⟩ := Cursor.readChars_of_item reaches
    rw [hchars, Cursor.readRow_eq, Cursor.readItem_of_head head rfl layout hstop]
    rfl
  | target =>
    cases head with
    | target n ends =>
      obtain ⟨compare, next, hchars⟩ := Cursor.readChars_of_target reaches (Numeral.head?_ne_equals layout)
      have hread := Cursor.readTarget_eq_stopAt (L := L) (c := Cursor.behind vs 0 mid) layout ends compare
      simp only [Cursor.tally_behind, hstop] at hread
      rw [hchars, hread]
      rfl

end DiceNotation
