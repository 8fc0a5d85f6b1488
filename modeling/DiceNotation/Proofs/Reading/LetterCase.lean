import DiceNotation.Proofs.Grammar.Tokens
import DiceNotation.Proofs.Reading.Acceptance

/-!
# The case of letters does not matter

Every scanner takes from a text in lower case what it takes from the text itself, and leaves the rest of it in lower case. So
the readers built on them come to the same, and stop at the same place, whatever the case of the letters.

* `isCaseless`, `toLower_invariant`: a function of characters does not see their case if it does not for 26 letters.
* `Text.lower`, `Lexeme.scan_lower`, `Operator.scan?_lower`, `Compare.scan?_lower`: the scanners on a text in lower case.
* `lowered`, `bind_lowered`: what a computation comes to on a text in lower case, one step after another.
* `readChars_lower`: reading a text in lower case.
* `read_of_recased`: texts that differ in the case of letters are read alike, and only ASCII is read.
-/

namespace DiceNotation

/-! ## Letters -/

/-- The capital letters, the only characters that lower case changes. -/
def capitals : List Char :=
  (List.range 26).map fun i => Char.ofNat (65 + i)

theorem mem_capitals {c : Char} (h : 65 ≤ c.toNat ∧ c.toNat ≤ 90) : c ∈ capitals := by
  refine List.mem_map.2 ⟨c.toNat - 65, List.mem_range.2 (by omega), ?_⟩
  rw [show 65 + (c.toNat - 65) = c.toNat by omega]
  exact Char.ofNat_toNat c

/-- Whether a function of characters has the same value at each capital letter and at its small one. -/
def isCaseless {α : Type} [DecidableEq α] (f : Char → α) : Bool :=
  capitals.all fun c => f c.toLower = f c

/-- Such a function sees no case. -/
theorem toLower_invariant {α : Type} [DecidableEq α] {f : Char → α} (h : isCaseless f = true) (c : Char) :
    f c.toLower = f c := by
  by_cases hc : 65 ≤ c.toNat ∧ c.toNat ≤ 90
  · exact of_decide_eq_true (List.all_eq_true.1 h c (mem_capitals hc))
  · rw [toLower_eq_self (by omega)]

section Letters

variable (c : Char)

theorem isGap_toLower : Text.isGap c.toLower = Text.isGap c :=
  toLower_invariant (by decide) c

theorem isBlank_toLower : Text.isBlank c.toLower = Text.isBlank c :=
  toLower_invariant (by decide) c

theorem isDigit_toLower : c.toLower.isDigit = c.isDigit :=
  toLower_invariant (f := Char.isDigit) (by decide) c

theorem isDiceLetter_toLower : Lexeme.isDiceLetter c.toLower = Lexeme.isDiceLetter c :=
  toLower_invariant (by decide) c

theorem ofChar?_toLower : Operator.ofChar? c.toLower = Operator.ofChar? c :=
  toLower_invariant (by decide) c

theorem toLower_toLower : c.toLower.toLower = c.toLower :=
  toLower_invariant (f := Char.toLower) (by decide) c

/-- A character that is no letter is in lower case what it is in the text. -/
theorem toLower_eq_iff {d : Char} (h : isCaseless (fun c => decide (c = d)) = true) : c.toLower = d ↔ c = d :=
  decide_eq_decide.1 (toLower_invariant h c)

end Letters

/-! ## Scanners -/

/-- A text in lower case. -/
def Text.lower (cs : List Char) : List Char :=
  cs.map Char.toLower

section Scanners

open Text (lower)

@[simp] theorem lower_cons (c : Char) (cs : List Char) : lower (c :: cs) = c.toLower :: lower cs := rfl

theorem head?_lower {d : Char} (h : isCaseless (fun c => decide (c = d)) = true) {cs : List Char} :
    (lower cs).head? = some d ↔ cs.head? = some d := by
  cases cs with
  | nil => rfl
  | cons c cs => simp [toLower_eq_iff c h]

variable (cs : List Char)

theorem skipGap_lower : Text.skipGap (lower cs) = lower (Text.skipGap cs) := by
  unfold Text.skipGap lower
  rw [List.dropWhile_map]
  exact congrArg (fun p => (cs.dropWhile p).map Char.toLower) (funext isGap_toLower)

theorem all_isBlank_lower : (lower cs).all Text.isBlank = cs.all Text.isBlank := by
  rw [lower, List.all_map]
  exact congrArg (cs.all ·) (funext isBlank_toLower)

/-- Digits have no case. -/
theorem lower_takeWhile_isDigit : lower (cs.takeWhile Char.isDigit) = cs.takeWhile Char.isDigit := by
  have hmap : (cs.takeWhile Char.isDigit).map Char.toLower = (cs.takeWhile Char.isDigit).map id :=
    List.map_congr_left fun c hc => toLower_of_isDigit (List.all_eq_true.1 List.all_takeWhile c hc)
  exact hmap.trans (List.map_id _)

theorem Numeral.scanDigits_lower (negative : Bool) :
    scanDigits negative (lower cs) = (scanDigits negative cs).map (Prod.map id lower) := by
  have hp : Char.isDigit ∘ Char.toLower = Char.isDigit := funext isDigit_toLower
  have htake : (lower cs).takeWhile Char.isDigit = cs.takeWhile Char.isDigit := by
    rw [lower, List.takeWhile_map, hp]
    exact lower_takeWhile_isDigit cs
  have hdrop : (lower cs).dropWhile Char.isDigit = lower (cs.dropWhile Char.isDigit) := by
    rw [lower, List.dropWhile_map, hp]
    rfl
  unfold scanDigits
  rw [htake, hdrop]
  cases cs.takeWhile Char.isDigit <;> rfl

theorem Numeral.scan?_lower : scan? (lower cs) = (scan? cs).map (Prod.map id lower) := by
  cases cs with
  | nil => rfl
  | cons c cs =>
    by_cases hc : c = '-'
    · subst hc
      exact scanDigits_lower cs true
    · have hlower : c.toLower ≠ '-' := fun h => hc ((toLower_eq_iff c (by decide)).1 h)
      rw [scan?_of_not_minus (by simp [hlower]), scan?_of_not_minus (by simp [hc])]
      exact scanDigits_lower (c :: cs) false

theorem Aggregate.scan_lower : scan (lower cs) = Prod.map id lower (scan cs) := by
  unfold scan
  rw [skipGap_lower]
  match Text.skipGap cs with
  | [] | [_] | [_, _] => rfl
  | x :: y :: z :: rest =>
    simp only [lower_cons, toLower_toLower]
    cases ofLetters? x.toLower y.toLower z.toLower <;> rfl

theorem Operator.scan?_lower : scan? (lower cs) = (scan? cs).map (Prod.map id lower) := by
  unfold scan?
  rw [skipGap_lower]
  cases Text.skipGap cs with
  | nil => rfl
  | cons c rest =>
    simp only [lower_cons, ofChar?_toLower]
    cases ofChar? c <;> rfl

theorem Compare.scan?_lower : scan? (lower cs) = (scan? cs).map (Prod.map id lower) := by
  cases cs with
  | nil => rfl
  | cons c cs =>
    by_cases hc : c ∈ ['>', '<', '=']
    · by_cases hnext : cs.head? = some '='
      · obtain ⟨rest, rfl⟩ := List.head?_eq_some_iff.1 hnext
        simp only [List.mem_cons, List.not_mem_nil, or_false] at hc
        rcases hc with rfl | rfl | rfl <;> rfl
      · have hnext' : (lower cs).head? ≠ some '=' := fun h => hnext ((head?_lower (by decide)).1 h)
        obtain ⟨gt, lt, eq⟩ := scan?_short hnext
        obtain ⟨gt', lt', eq'⟩ := scan?_short hnext'
        simp only [List.mem_cons, List.not_mem_nil, or_false] at hc
        rcases hc with rfl | rfl | rfl
        · rw [gt]; exact gt'
        · rw [lt]; exact lt'
        · rw [eq]; exact eq'
    · simp only [List.mem_cons, List.not_mem_nil, or_false, not_or] at hc
      have hgt := toLower_eq_iff c (d := '>') (by decide)
      have hlt := toLower_eq_iff c (d := '<') (by decide)
      have heq := toLower_eq_iff c (d := '=') (by decide)
      simp [scan?, hc, hgt, hlt, heq]

theorem Lexeme.scanAfter_lower (count : Numeral) :
    scanAfter count (lower cs) = Prod.map id lower (scanAfter count cs) := by
  unfold scanAfter
  rw [skipGap_lower]
  cases Text.skipGap cs with
  | nil => rfl
  | cons c after =>
    simp only [lower_cons, isDiceLetter_toLower, skipGap_lower, Numeral.scan?_lower]
    by_cases hc : isDiceLetter c = true
    · simp only [if_pos hc]
      cases Numeral.scan? (Text.skipGap after) with
      | none => rfl
      | some found =>
        obtain ⟨sides, rest⟩ := found
        simp only [Option.map_some, Prod.map, id, Aggregate.scan_lower]
    · simp only [if_neg hc]
      rfl

/-- Without a parenthesis in front, the head of an item starts with a numeral. -/
theorem Lexeme.scan_of_not_opening (h : (Text.skipGap cs).head? ≠ some '(') :
    scan cs = match Numeral.scan? (Text.skipGap cs) with
      | some (count, rest) => scanAfter count rest
      | none => (.missing, Text.skipGap cs) := by
  unfold scan
  split
  · rename_i hskip
    exact absurd (congrArg List.head? hskip) h
  · rfl

theorem Lexeme.scan_lower : scan (lower cs) = Prod.map id lower (scan cs) := by
  by_cases h : (Text.skipGap cs).head? = some '('
  · obtain ⟨rest, hskip⟩ := List.head?_eq_some_iff.1 h
    have hskip' : Text.skipGap (lower cs) = '(' :: lower rest := by rw [skipGap_lower, hskip]; rfl
    simp only [scan, hskip, hskip']
    rfl
  · have h' : (Text.skipGap (lower cs)).head? ≠ some '(' := by
      rw [skipGap_lower]
      exact fun hlower => h ((head?_lower (by decide)).1 hlower)
    rw [scan_of_not_opening _ h, scan_of_not_opening _ h', skipGap_lower, Numeral.scan?_lower]
    cases Numeral.scan? (Text.skipGap cs) with
    | none => rfl
    | some found => exact scanAfter_lower found.2 found.1

end Scanners

/-! ## Computations on a text in lower case -/

/-- The same stop, in a text in lower case. -/
def Stop.lower : Stop → Stop
  | unexpected expected rest => unexpected expected (Text.lower rest)
  | overLimit e => overLimit e
  | digits e => digits e

/-- The same cursor, on a text in lower case. -/
def Cursor.lower (c : Cursor) : Cursor :=
  c.moveTo (Text.lower c.rest)

/-- What a computation comes to on a text in lower case, where its results are changed by some function. -/
def lowered {α : Type} (f : α → α) : Except Stop α → Except Stop α
  | .ok a => .ok (f a)
  | .error stop => .error stop.lower

section Lowered

variable {α β : Type} {f : α → α} {g : β → β}

theorem bind_lowered {x x' : Except Stop α} {k k' : α → Except Stop β} (hx : x' = lowered f x)
    (hk : ∀ a, k' (f a) = lowered g (k a)) : x' >>= k' = lowered g (x >>= k) := by
  subst hx
  cases x with
  | error stop => rfl
  | ok a => exact hk a

/-- A check that does not look at the text. -/
theorem ite_lowered {p : Prop} [Decidable p] {x x' y y' : Except Stop α} (hx : x' = lowered f x) (hy : y' = lowered f y) :
    (if p then x' else y') = lowered f (if p then x else y) := by
  split
  · exact hx
  · exact hy

end Lowered

theorem Numeral.convert_lowered (n : Numeral) : n.convert = lowered id n.convert := by
  unfold convert
  cases n.read <;> rfl

namespace Cursor

variable (L : Limits)

theorem countItem_lower (c : Cursor) : c.lower.countItem L = lowered lower (c.countItem L) :=
  ite_lowered rfl rfl

theorem enter_lower (c : Cursor) : c.lower.enter L = lowered lower (c.enter L) :=
  ite_lowered rfl rfl

theorem countRolls_lower (d : Dice) (c : Cursor) : c.lower.countRolls L d = lowered lower (c.countRolls L d) :=
  ite_lowered rfl (ite_lowered rfl rfl)

theorem readDice_lower (count sides : Numeral) (a : Aggregate) (c : Cursor) :
    readDice L count sides a c.lower = lowered (Prod.map id lower) (readDice L count sides a c) := by
  refine bind_lowered count.convert_lowered fun count => bind_lowered sides.convert_lowered fun sides => ?_
  refine bind_lowered (countItem_lower L c) fun c => ite_lowered ?_ rfl
  exact bind_lowered (countRolls_lower L _ c) fun c => rfl

theorem checkNumber_lowered (n : Int) : L.checkNumber n = lowered id (L.checkNumber n) :=
  ite_lowered rfl rfl

theorem readNumber_lower (n : Numeral) (c : Cursor) :
    readNumber L n c.lower = lowered (Prod.map id lower) (readNumber L n c) := by
  refine bind_lowered n.convert_lowered fun value => bind_lowered (countItem_lower L c) fun c => ?_
  exact bind_lowered (checkNumber_lowered L value) fun _ => rfl

section Groups

variable {expr : Cursor → Except Stop (Expr × Cursor)} (hexpr : ∀ c, expr c.lower = lowered (Prod.map id lower) (expr c))
include hexpr

theorem readGroup_lower (c : Cursor) : readGroup L expr c.lower = lowered (Prod.map id lower) (readGroup L expr c) := by
  refine bind_lowered (enter_lower L c) fun c => bind_lowered (hexpr c) fun r => ?_
  obtain ⟨e, c⟩ := r
  have hskip : Text.skipGap c.lower.rest = Text.lower (Text.skipGap c.rest) := skipGap_lower c.rest
  simp only [Prod.map, hskip]
  by_cases h : (Text.skipGap c.rest).head? = some ')'
  · obtain ⟨rest, hrest⟩ := List.head?_eq_some_iff.1 h
    rw [hrest]
    rfl
  · have h' : (Text.lower (Text.skipGap c.rest)).head? ≠ some ')' := fun hlower => h ((head?_lower (by decide)).1 hlower)
    split
    · rename_i hrest
      exact absurd (congrArg List.head? hrest) h'
    · split
      · rename_i hrest
        exact absurd (congrArg List.head? hrest) h
      · rfl

theorem readItem_lower (c : Cursor) : readItem L expr c.lower = lowered (Prod.map id lower) (readItem L expr c) := by
  have hscan : Lexeme.scan c.lower.rest = Prod.map id Text.lower (Lexeme.scan c.rest) := Lexeme.scan_lower c.rest
  unfold readItem
  rw [hscan]
  rcases Lexeme.scan c.rest with ⟨lexeme, rest⟩
  cases lexeme with
  | opening => exact readGroup_lower L hexpr (c.moveTo rest)
  | dice count sides a => exact readDice_lower L count sides a (c.moveTo rest)
  | number n => exact readNumber_lower L n (c.moveTo rest)
  | noSides | missing => rfl

end Groups

theorem readExpr_lower : ∀ (fuel : Nat) (before : Option (Expr × Operator)) (c : Cursor),
    readExpr L fuel before c.lower = lowered (Prod.map id lower) (readExpr L fuel before c)
  | 0, _, _ => rfl
  | fuel + 1, before, c => by
    refine bind_lowered (readItem_lower L (readExpr_lower fuel none) c) fun r => ?_
    obtain ⟨item, c⟩ := r
    have hscan : Operator.scan? c.lower.rest = (Operator.scan? c.rest).map (Prod.map id Text.lower) :=
      Operator.scan?_lower c.rest
    simp only [Prod.map, hscan]
    cases Operator.scan? c.rest with
    | none => rfl
    | some next => exact readExpr_lower fuel _ (c.moveTo next.2)

theorem readTarget_lower (compare : Compare) (c : Cursor) :
    readTarget L compare c.lower = lowered (Prod.map id lower) (readTarget L compare c) := by
  have hskip : Text.skipGap c.lower.rest = Text.lower (Text.skipGap c.rest) := skipGap_lower c.rest
  unfold readTarget
  rw [hskip, Numeral.scan?_lower]
  cases Numeral.scan? (Text.skipGap c.rest) with
  | none => rfl
  | some next =>
    refine bind_lowered next.1.convert_lowered fun target => ?_
    exact bind_lowered (checkNumber_lowered L target) fun _ => rfl

theorem readChecker_lower (c : Cursor) : c.lower.readChecker L = lowered (Prod.map id lower) (c.readChecker L) := by
  have hskip : Text.skipGap c.lower.rest = Text.lower (Text.skipGap c.rest) := skipGap_lower c.rest
  unfold readChecker
  rw [hskip]
  cases Text.skipGap c.rest with
  | nil => rfl
  | cons d rest =>
    have hscan := Compare.scan?_lower (d :: rest)
    simp only [lower_cons] at hscan ⊢
    rw [hscan]
    cases Compare.scan? (d :: rest) with
    | none => rfl
    | some next =>
      refine bind_lowered (readTarget_lower L next.1 (c.moveTo next.2)) fun r => ?_
      obtain ⟨checker, c⟩ := r
      have hskip : Text.skipGap c.lower.rest = Text.lower (Text.skipGap c.rest) := skipGap_lower c.rest
      simp only [Prod.map, hskip]
      cases Text.skipGap c.rest <;> rfl

end Cursor

/-- Reading a text in lower case gives the same, or stops at the same place. -/
theorem readChars_lower (L : Limits) (cs : List Char) : readChars L (Text.lower cs) = lowered id (readChars L cs) := by
  have hrow := Cursor.readExpr_lower L (cs.length + 1) none ⟨cs, 0, 0, 0⟩
  have hlen : (Text.lower cs).length = cs.length := List.length_map _
  unfold readChars
  rw [hlen]
  exact bind_lowered hrow fun r => bind_lowered (Cursor.readChecker_lower L r.2) fun _ => rfl

/-! ## Commands -/

/-- The same error, in another text. -/
def ReadError.inText (text : String) : ReadError → ReadError
  | syntactic (.blank _) => syntactic (.blank text)
  | syntactic (.unexpected _ position expected) => syntactic (.unexpected text position expected)
  | overLimit e => overLimit e
  | digits e => digits e

section Stops

variable {text text' : String} (stop : Stop)

/-- A stop is reported by how much of the text is left, not by what is left. -/
theorem Stop.inText_lower : stop.lower.inText text = stop.inText text := by
  cases stop with
  | unexpected expected rest =>
    have hrest : (Text.lower rest).length = rest.length := List.length_map _
    simp only [lower, inText, hrest]
  | overLimit | digits => rfl

theorem Stop.inText_inText (hlen : text.length = text'.length) :
    (stop.inText text).inText text' = stop.inText text' := by
  cases stop with
  | unexpected expected rest => simp only [inText, ReadError.inText, hlen]
  | overLimit | digits => rfl

/-- What keeps a reading from being noted has no place in a text. -/
theorem Reading.noted_inText (r : Reading) (text : String) : r.noted.mapError (ReadError.inText text) = r.noted := by
  unfold noted
  split <;> rfl

end Stops

section Recased

variable {text text' : String}

/-- Texts that differ in the case of letters only are read as the same, or refused with the same error. -/
theorem read_eq_of_recased (recased : text.toList.map Char.toLower = text'.toList.map Char.toLower) (L : Limits) :
    read L text' = (read L text).mapError (ReadError.inText text') := by
  have hlower : Text.lower text.toList = Text.lower text'.toList := recased
  have hlen : text.length = text'.length := by
    rw [← String.length_toList, ← String.length_toList, ← List.length_map (f := Char.toLower), recased, List.length_map]
  have hblank : text.toList.all Text.isBlank = text'.toList.all Text.isBlank := by
    rw [← all_isBlank_lower, hlower, all_isBlank_lower]
  by_cases hb : text.toList.all Text.isBlank = true
  · have hb' := hblank.symm.trans hb
    simp only [read, if_pos hb, if_pos hb']
    rfl
  · have hb' := fun h => hb (hblank.trans h)
    rw [read_of_not_blank (Bool.eq_false_iff.2 hb), read_of_not_blank (Bool.eq_false_iff.2 hb')]
    have hsame : lowered id (readChars L text.toList) = lowered id (readChars L text'.toList) := by
      rw [← readChars_lower, ← readChars_lower, hlower]
    cases hr : readChars L text.toList with
    | ok r =>
      cases hr' : readChars L text'.toList with
      | ok r' =>
        rw [hr, hr'] at hsame
        cases hsame
        exact (r.noted_inText text').symm
      | error stop' => rw [hr, hr'] at hsame; cases hsame
    | error stop =>
      cases hr' : readChars L text'.toList with
      | ok r' => rw [hr, hr'] at hsame; cases hsame
      | error stop' =>
        rw [hr, hr'] at hsame
        have hstop : stop.lower = stop'.lower := Except.error.inj hsame
        refine congrArg Except.error ?_
        rw [stop.inText_inText hlen, ← stop'.inText_lower, ← hstop, stop.inText_lower]

/-- The text of a command is ASCII. -/
theorem isAscii_of_read {L : Limits} {r : Reading} (h : read L text = .ok r) : ∀ c ∈ text.toList, c.toNat < 128 := by
  obtain ⟨ts, sentence, -⟩ := sentence_of_read h
  obtain ⟨g, hg, layout⟩ := sentence.text
  obtain ⟨ds, htext, hds⟩ := layout.exists_chars
  intro c hc
  rw [htext, List.mem_append] at hc
  have hchar : isVisible c = true ∨ Text.isGap c = true := hc.elim (hds c) fun hc => .inr (hg c hc)
  rcases hchar with hvisible | hgap
  · simp only [isVisible, Bool.and_eq_true, decide_eq_true_eq] at hvisible
    omega
  · rcases isGap_iff.1 hgap with rfl | rfl <;> decide

end Recased

/-- Two texts have the same outcome: the same reading, or the same error, by position and demand if it is one of syntax. -/
inductive SameOutcome : Except ReadError Reading → Except ReadError Reading → Prop
  | accepted (r : Reading) : SameOutcome (.ok r) (.ok r)
  | syntactic {e e' : SyntaxError} (position : e.position = e'.position) (expected : e.expected = e'.expected) :
      SameOutcome (.error (.syntactic e)) (.error (.syntactic e'))
  | overLimit (e : LimitError) : SameOutcome (.error (.overLimit e)) (.error (.overLimit e))
  | digits (e : DigitError) : SameOutcome (.error (.digits e)) (.error (.digits e))

theorem sameOutcome_mapError (outcome : Except ReadError Reading) (text : String) :
    SameOutcome outcome (outcome.mapError (ReadError.inText text)) := by
  rcases outcome with e | r
  · cases e with
    | syntactic e => cases e <;> exact .syntactic rfl rfl
    | overLimit e => exact .overLimit e
    | digits e => exact .digits e
  · exact .accepted r

/-- **The case of letters does not matter.** Two texts that differ only in the case of ASCII letters have the same outcome
under any bounds, whether they are commands or not. A text with a character outside ASCII is not read, not even with a letter
that has an ASCII letter for its capital or small one. -/
theorem read_of_recased {text text' : String} (recased : text.toList.map Char.toLower = text'.toList.map Char.toLower)
    (L : Limits) :
    SameOutcome (read L text) (read L text') ∧ ∀ r, read L text = .ok r → ∀ c ∈ text.toList, c.toNat < 128 := by
  refine ⟨?_, fun r => isAscii_of_read⟩
  rw [read_eq_of_recased recased L]
  exact sameOutcome_mapError _ text'

/-- The sides are missing at the same place of a group that is not closed. -/
theorem read_of_recased_openGroup :
    read .standard "2D6mAx X (3D" = .error (.syntactic (.unexpected "2D6mAx X (3D" 12 .diceSides)) ∧
      ∃ e, read .standard "2d6MAX x (3d" = .error (.syntactic e) ∧ e.position = 12 ∧ e.expected = "dice sides" := by
  have refused : read .standard "2D6mAx X (3D" = .error (.syntactic (.unexpected "2D6mAx X (3D" 12 .diceSides)) := by
    decide +kernel
  have outcome := (read_of_recased (show "2D6mAx X (3D".toList.map Char.toLower = "2d6MAX x (3d".toList.map Char.toLower by
    decide) .standard).1
  rw [refused] at outcome
  refine ⟨refused, ?_⟩
  generalize read .standard "2d6MAX x (3d" = other at outcome
  cases outcome with
  | syntactic position expected => exact ⟨_, rfl, position.symm, expected.symm⟩

/-- The long s, whose capital letter is that of `s`, does not stand for it. -/
example : read .standard "1d6\u017fum" = .error (.syntactic (.unexpected "1d6\u017fum" 3 .operatorOrChecker)) := by
  decide +kernel

end DiceNotation
