import DiceNotation.CommandLine
import DiceNotation.Proofs.Reading.Stopping
import DiceNotation.Proofs.Session.Steps
import Mathlib.Algebra.Ring.Int.Defs

/-!
# What a text is refused for

A text is refused for its syntax or for a bound, and the command line reports both. There is one more way to fail, which
the command line has no report of: a number has too many digits.

* `Overlong`: the texts in which a number has too many digits.
* `digits_iff_overlong`: just these are refused for it.
* `Token.Spelled.means`: whatever spells an operator, a comparison or an aggregate has a meaning.
* `perform_of_error`: what the command line makes of a text that is refused.
* `read_refusals`: why texts are refused, and what the command line makes of it.
-/

namespace DiceNotation

/-! ## Too many digits -/

/-- A number of a text has too many digits: one that is read, or the total of rolled dice in a report that there are too many
of them or in the note of what the text says. -/
inductive Overlong (L : Limits) (cs : List Char) : DigitError → Prop
  /-- Where reading gets to, the numerals are short up to one that is not. -/
  | read {us before after : List Token} {vs : List Visit} {place : Place} {mid rest : List Char} {v : Visit} {n : Numeral}
      (reaches : Reaches L cs us vs place mid) (head : Head place (before ++ .numeral n :: after) rest v)
      (layout : Layout (before ++ .numeral n :: after) mid rest) (short : ShortNumerals before)
      (long : maxDigits < n.digits.length) : Overlong L cs (.read n.digits.length)
  /-- Where reading gets to, a dice term has short numerals, and just the bound on rolled dice is exceeded by it. -/
  | write {us : List Token} {vs : List Visit} {depth : Nat} {mid rest : List Char} {count sides : Numeral}
      (reaches : Reaches L cs us vs (.item depth) mid) (ends : Ends rest)
      (layout : Layout [.numeral count, .diceLetter, .numeral sides] mid rest)
      (short : ShortNumerals [.numeral count, .diceLetter, .numeral sides])
      (items : (Tally.afterAll {} vs).items < L.itemCount) (fewSides : sides.value ≤ L.sides)
      (exceeds : L.rolls < (Tally.afterAll {} vs).rolls + count.value.toNat)
      (long : ¬Writable ((Tally.afterAll {} vs).rolls + count.value.toNat : Nat)) : Overlong L cs .write
  /-- The whole text is a sentence with short numerals whose tree is within the bounds. -/
  | note {ts : List Token} {e : Expr} {checker : Option Checker} (sentence : Sentence ts cs e checker)
      (short : ShortNumerals ts) (within : Within L e checker) (long : ¬Writable e.rolls) : Overlong L cs .write

section Overlong

variable {L : Limits} {k : Tally} {ts : List Token} {v : Visit} {e : DigitError}

theorem Token.overlong?_eq_some {t : Token} (h : t.overlong? = some e) :
    ∃ n, t = .numeral n ∧ maxDigits < n.digits.length ∧ e = .read n.digits.length := by
  cases t with
  | numeral n =>
    by_cases hn : n.digits.length ≤ maxDigits
    · simp [overlong?, hn] at h
    · simp only [overlong?, if_neg hn] at h
      cases h
      exact ⟨n, rfl, Nat.not_le.1 hn, rfl⟩
  | diceLetter | word | operator | opening | closing | compare => cases h

theorem LimitError.stop_eq_digits {first : LimitError} (h : first.stop = .digits e) :
    e = .write ∧ ∃ total bound, first = .rolls total bound ∧ ¬Writable total := by
  unfold stop at h
  split at h
  · cases h
  · rename_i hlong
    cases h
    cases first with
    | rolls total bound => exact ⟨rfl, total, bound, rfl, hlong⟩
    | itemCount | sides | number | depth => exact absurd trivial hlong

/-- Only a dice term exceeds the bound on rolled dice, and it exceeds no bound that is looked at before. -/
theorem Visit.eq_dice_of_excess {total bound : Nat} (h : v.excess L k = some (.rolls total bound)) :
    ∃ d, v = .dice d ∧ k.items ≤ L.itemCount ∧ d.sides ≤ L.sides ∧ L.rolls < k.rolls ∧ total = k.rolls := by
  cases v with
  | dice d =>
    by_cases hi : L.itemCount < k.items
    · simp [excess, hi] at h
    by_cases hs : L.sides < d.sides
    · simp [excess, hi, hs] at h
    by_cases hr : L.rolls < k.rolls
    · simp only [excess, if_neg hi, if_neg hs, if_pos hr, Option.some.injEq, LimitError.rolls.injEq] at h
      exact ⟨d, rfl, Nat.not_lt.1 hi, Int.not_lt.1 hs, hr, h.1.symm⟩
    · simp [excess, hi, hs, hr] at h
  | opening depth =>
    by_cases hd : L.depth < depth <;> simp [excess, hd] at h
  | number n =>
    by_cases hi : L.itemCount < k.items
    · simp [excess, hi] at h
    · by_cases hm : L.number < n.natAbs <;> simp [excess, hi, hm] at h
  | target n =>
    by_cases hm : L.number < n.natAbs <;> simp [excess, hm] at h

/-- What stops reading at a place for too many digits is a number that has them. -/
theorem overlong_of_stoppedBy {cs : List Char} (h : StoppedBy L cs (.digits e)) : Overlong L cs e := by
  obtain ⟨us, vs, place, mid, ts, rest, v, reaches, head, layout, hstop⟩ := h
  unfold stopAt at hstop
  split at hstop
  · rename_i e' hfind
    cases hstop
    obtain ⟨before, t, after, rfl, ht, hbefore⟩ := List.findSome?_eq_some_iff.1 hfind
    obtain ⟨n, rfl, long, rfl⟩ := Token.overlong?_eq_some ht
    refine .read reaches head layout ?_ long
    intro m hm
    exact shortNumerals_numeral.1 (Token.overlong?_numeral_eq_none.1 (hbefore _ hm))
  · rename_i hnone
    obtain ⟨first, hfirst, hstop⟩ := Option.map_eq_some_iff.1 hstop
    obtain ⟨rfl, total, bound, rfl, hlong⟩ := LimitError.stop_eq_digits hstop
    obtain ⟨d, rfl, hitems, hsides, hrolls, rfl⟩ := Visit.eq_dice_of_excess hfirst
    cases head with
    | dice depth count sides ends =>
      refine .write reaches ends layout ?_ hitems hsides hrolls hlong
      intro m hm
      exact shortNumerals_numeral.1 (Token.overlong?_numeral_eq_none.1 (List.findSome?_eq_none_iff.1 hnone _ hm))

/-- A text is refused for a number with too many digits just if it has one: reading stops at the number, or nothing stops it
and the total cannot be noted. -/
theorem digits_iff_overlong {text : String} : read L text = .error (.digits e) ↔ Overlong L text.toList e := by
  have hdigits : ∀ expected rest, Stop.digits e ≠ .unexpected expected rest := by simp
  refine (read_eq_error_iff hdigits).trans ⟨?_, fun h => ?_⟩
  · rintro (stopped | ⟨hstop, r, hchars, long⟩)
    · exact overlong_of_stoppedBy stopped
    · obtain ⟨ts, sentence, short, within, -, hrolls⟩ := sentence_of_readChars hchars
      cases hstop
      exact .note sentence short within (hrolls ▸ long)
  · cases h with
    | read reaches head layout short long =>
      refine .inl ⟨_, _, _, _, _, _, _, reaches, head, layout, stopAt_of_long short ?_ _⟩
      rw [shortNumerals_numeral]
      exact Nat.not_le.2 long
    | @write us vs depth mid rest count sides reaches ends layout short items fewSides exceeds long =>
      refine .inl ⟨_, _, _, _, _, _, _, reaches, .dice depth count sides ends, layout, ?_⟩
      rw [stopAt_of_short short]
      let d : Dice := ⟨count.value, sides.value, .sum⟩
      have hexcess := Visit.excess_dice_rolls (L := L) (k := (Tally.afterAll {} vs).after (.dice d)) (d := d) items
        fewSides exceeds
      rw [hexcess, Option.map_some]
      exact congrArg some (if_neg long)
    | note sentence short within long =>
      have hchars := readChars_of_sentence (L := L) sentence short
      rw [firstExcess_eq_none_iff.2 within] at hchars
      exact .inr ⟨rfl, _, hchars, long⟩

end Overlong

/-! ## Symbols -/

/-- A spelling of a symbol has its meaning. The words of aggregates are looked up in lower case. -/
def Token.Means (w : List Char) : Token → Prop
  | .operator op => Vocabulary.operator.lookUp Operator.ofText? (String.ofList w) = .ok op
  | .compare c => Vocabulary.compare.lookUp Compare.ofText? (String.ofList w) = .ok c
  | .word a => Vocabulary.aggregate.lookUp Aggregate.ofText? (String.ofList (w.map Char.toLower)) = .ok a
  | _ => True

theorem Vocabulary.lookUp_of_some {α : Type} (vocabulary : Vocabulary) {meaning? : String → Option α} {text : String}
    {a : α} (h : meaning? text = some a) : vocabulary.lookUp meaning? text = .ok a := by
  simp only [lookUp, h]

/-- Whatever spells a symbol has the symbol's meaning. -/
theorem Token.Spelled.means {t : Token} {w : List Char} (h : t.Spelled w) : t.Means w := by
  cases h with
  | operator op => exact Vocabulary.lookUp_of_some _ (by cases op <;> rfl)
  | times letter => rcases letter with rfl | rfl <;> rfl
  | compare c => exact Vocabulary.lookUp_of_some _ (by cases c <;> rfl)
  | equals => rfl
  | @word a w letters =>
    refine Vocabulary.lookUp_of_some _ ?_
    rw [letters, String.ofList_toList]
    exact Aggregate.ofText?_word a
  | numeral | diceLetter | opening | closing => trivial

/-! ## The command line -/

namespace CommandLine

variable {s : Session} {S : Settings} {text : String} {e : ReadError}

/-- A task with an expression that is refused. -/
theorem perform_of_error (settings : s.inForce = .ok S) (refused : read S.limits text = .error e) (debug : Bool)
    {task : Task}
    (h : task = .check text ∨ ∃ times seed noDetail language, task = .roll text times seed noDetail language) :
    (perform debug task s).1 = fail debug (.read e) [] := by
  have hcompile : Session.compile none text s = (.error (.read e), s.loaded) := by
    rw [Session.compile_none_of_ok settings, Command.compile, refused]
    rfl
  have hrun : (Session.compile none text).run s = (.error (.read e), s.loaded) := hcompile
  rcases h with rfl | ⟨times, seed, noDetail, language, rfl⟩
  · simp only [perform, bind, StateT.bind, hrun]
    rfl
  · simp only [perform, bind, StateT.bind, hrun]
    rfl

end CommandLine

/-! ## All together -/

/-- **A text is refused for its syntax or for a bound, unless a number has too many digits.**

* A text is refused for a number with too many digits just if it has one.
* Any other text is read, or refused for its syntax, or refused for a bound.
* No operator, comparison or aggregate that is spelled in a text is without a meaning.
* If a text is refused, a check and a roll of it on the command line, with settings in force, fail with the exit code 1.
  What is wrong with the syntax or a bound is reported. For too many digits there is no report, and the failure escapes. -/
theorem read_refusals (L : Limits) (text : String) :
    (∀ e, read L text = .error (.digits e) ↔ Overlong L text.toList e) ∧
    ((∀ e, ¬Overlong L text.toList e) → (∃ r, read L text = .ok r) ∨ (∃ e, read L text = .error (.syntactic e)) ∨
      ∃ e, read L text = .error (.overLimit e)) ∧
    (∀ (t : Token) (w : List Char), t.Spelled w → t.Means w) ∧
    ∀ (s : Session) (S : Settings) (debug : Bool) (task : CommandLine.Task), s.inForce = .ok S → S.limits = L →
      (task = .check text ∨ ∃ times seed noDetail language, task = .roll text times seed noDetail language) →
      ∀ e, read L text = .error e →
        (CommandLine.perform debug task s).1.exitCode = 1 ∧
        (CommandLine.perform debug task s).1 = match e with
          | .digits d => .escaped (.read (.digits d))
          | e => .finished debug false (Report.readError e) [] := by
  refine ⟨fun e => digits_iff_overlong, ?_, fun t w spelled => spelled.means, ?_⟩
  · intro short
    cases hr : read L text with
    | ok r => exact .inl ⟨r, rfl⟩
    | error e =>
      cases e with
      | syntactic e => exact .inr (.inl ⟨e, rfl⟩)
      | overLimit e => exact .inr (.inr ⟨e, rfl⟩)
      | digits e => exact absurd (digits_iff_overlong.1 hr) (short e)
  · rintro s S debug task settings rfl htask e refused
    rw [CommandLine.perform_of_error settings refused debug htask]
    cases e with
    | syntactic e => exact ⟨rfl, rfl⟩
    | overLimit e => exact ⟨rfl, rfl⟩
    | digits e => exact ⟨rfl, rfl⟩

/-- A parenthesis that is not closed: both a check and three rolls with a seed report it. -/
theorem read_refusals_openGroup :
    let s : Session := { cached := some {} }
    let e : SyntaxError := .unexpected "2d6 - (3" 8 .closing
    read .standard "2d6 - (3" = .error (.syntactic e) ∧
      (CommandLine.perform false (.check "2d6 - (3") s).1 = .finished false false (Report.readError (.syntactic e)) [] ∧
      (CommandLine.perform true (.roll "2d6 - (3" 3 (some 7) false none) s).1.exitCode = 1 := by
  intro s e
  have refused : read .standard "2d6 - (3" = .error (.syntactic e) := by decide +kernel
  obtain ⟨-, -, -, hline⟩ := read_refusals .standard "2d6 - (3"
  refine ⟨refused, ?_, ?_⟩
  · exact (hline s {} false _ rfl rfl (.inl rfl) _ refused).2
  · exact (hline s {} true _ rfl rfl (.inr ⟨3, some 7, false, none, rfl⟩) _ refused).1

/-- The least number with more digits than are read. -/
def overlongNumber : Int :=
  10 ^ maxDigits

/-- The number exceeds the bound, but its text is refused neither for that nor for its syntax. -/
theorem read_overlongNumber :
    Limits.standard.number < overlongNumber.natAbs ∧
      ∀ L, read L (String.ofList (decimal overlongNumber)) = .error (.digits (.read (maxDigits + 1))) := by
  obtain ⟨n, hn⟩ : ∃ n, overlongNumber = n := ⟨_, rfl⟩
  have hnat : n.natAbs = 10 ^ maxDigits := by
    rw [← hn, overlongNumber, Int.natAbs_pow, show (10 : Int).natAbs = 10 from rfl]
  rw [hn]
  constructor
  · rw [hnat]
    exact Nat.lt_trans (show 65536 < 10 ^ 5 by decide) (Nat.pow_lt_pow_right (by decide) (by decide))
  · intro L
    have hlong : ¬Writable n := by
      rw [writable_iff, hnat]
      exact Nat.lt_irrefl _
    have hlen : (Numeral.ofInt n).digits.length = maxDigits + 1 := by
      refine Nat.le_antisymm ?_ (Nat.lt_of_not_le hlong)
      show (Nat.toDigits 10 n.natAbs).length ≤ _
      rw [Nat.length_toDigits_le_iff (by decide) (by decide), hnat]
      exact Nat.pow_lt_pow_right (by decide) (Nat.lt_succ_self _)
    have layout : Layout [.numeral (.ofInt n)] (decimal n) [] := by
      simpa using Layout.tight (Numeral.spelled_decimal n) (.nil [])
    have head : Head (.item 0) ([] ++ [.numeral (.ofInt n)]) [] (.number (Numeral.ofInt n).value) :=
      .number 0 _ (by simp [Ends]) (by simp [Text.skipGap])
    rw [digits_iff_overlong, String.toList_ofList, ← hlen]
    exact .read (reaches_start L _) head layout shortNumerals_nil (hlen ▸ Nat.lt_succ_self _)

end DiceNotation
