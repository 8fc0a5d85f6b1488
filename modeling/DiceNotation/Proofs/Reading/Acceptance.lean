import DiceNotation.Proofs.Grammar.Spelling
import DiceNotation.Proofs.Reading.Completeness

/-!
# Which commands are read

* `read_eq_ok_iff_sentence`: a text is read as a tree just when it is a sentence with that tree, its numerals are short,
  the tree is within the bounds and the total of its rolled dice can be written.
* `read_unnotedTotal`: a sentence within some bounds that is not read, since this total cannot be written.
* `read_stops_at_first_excess`: reading a sentence beyond the bounds reports the first bound that a walk over the tree
  exceeds, unless that report needs a total in writing that has too many digits.
-/

namespace DiceNotation

variable {L : Limits} {text : String} {ts : List Token} {e : Expr} {checker : Option Checker}

/-! ## From characters to texts -/

theorem read_of_not_blank (h : text.toList.all Text.isBlank = false) :
    read L text = match readChars L text.toList with
      | .ok r => r.noted
      | .error stop => .error (stop.inText text) := by
  unfold read
  rw [h]
  cases readChars L text.toList <;> rfl

/-- A reading is noted as it is, if the total of its rolled dice can be written. -/
theorem Reading.noted_eq_ok {r r' : Reading} : r.noted = .ok r' ↔ Writable r.rolls ∧ r = r' := by
  unfold noted
  by_cases hw : Writable r.rolls
  · simp [hw]
  · simp [hw]

theorem Reading.noted_eq_error {r : Reading} {e : ReadError} :
    r.noted = .error e ↔ ¬Writable r.rolls ∧ e = .digits .write := by
  unfold noted
  by_cases hw : Writable r.rolls
  · simp [hw]
  · simp [hw, eq_comm]

/-- The characters of a text that is read are read, and the total of its rolled dice can be written. -/
theorem readChars_of_read {r : Reading} (h : read L text = .ok r) :
    readChars L text.toList = .ok r ∧ Writable r.rolls := by
  unfold read at h
  split at h
  · cases h
  · cases hr : readChars L text.toList with
    | error stop =>
      rw [hr] at h
      cases h
    | ok r' =>
      rw [hr] at h
      obtain ⟨writable, rfl⟩ := Reading.noted_eq_ok.1 h
      exact ⟨rfl, writable⟩

/-- The tree of a sentence with short numerals is noted behind a walk over it. -/
theorem read_of_sentence (h : Sentence ts text.toList e checker) (short : ShortNumerals ts) :
    read L text = match firstExcess L {} (visits e checker) with
      | some first => .error (if first.Reportable then .overLimit first else .digits .write)
      | none => (Reading.mk e checker e.itemCount e.rolls).noted := by
  rw [read_of_not_blank h.not_blank, readChars_of_sentence h short]
  cases firstExcess L {} (visits e checker) with
  | none => rfl
  | some first =>
    by_cases hr : first.Reportable
    · simp only [LimitError.stop, if_pos hr]
      rfl
    · simp only [LimitError.stop, if_neg hr]
      rfl

theorem read_of_within (h : Sentence ts text.toList e checker) (short : ShortNumerals ts) (within : Within L e checker) :
    read L text = (Reading.mk e checker e.itemCount e.rolls).noted := by
  rw [read_of_sentence h short, firstExcess_eq_none_iff.2 within]

/-- Characters that are read are a sentence with short numerals whose tree is within the bounds, and the counts are the
tree's. -/
theorem sentence_of_readChars {cs : List Char} {r : Reading} (h : readChars L cs = .ok r) :
    ∃ ts, Sentence ts cs r.expr r.checker ∧ ShortNumerals ts ∧ Within L r.expr r.checker ∧
      r.items = r.expr.itemCount ∧ r.rolls = r.expr.rolls := by
  obtain ⟨ts, sentence, short⟩ := readChars_sound h
  rw [readChars_of_sentence sentence short] at h
  cases hx : firstExcess L {} (visits r.expr r.checker) with
  | some first =>
    rw [hx] at h
    cases h
  | none =>
    rw [hx] at h
    have hr := Except.ok.inj h
    exact ⟨ts, sentence, short, firstExcess_eq_none_iff.1 hx, (congrArg Reading.items hr).symm,
      (congrArg Reading.rolls hr).symm⟩

/-- The same of a text that is read. -/
theorem sentence_of_read {r : Reading} (h : read L text = .ok r) :
    ∃ ts, Sentence ts text.toList r.expr r.checker ∧ ShortNumerals ts ∧ Within L r.expr r.checker ∧
      r.items = r.expr.itemCount ∧ r.rolls = r.expr.rolls :=
  sentence_of_readChars (readChars_of_read h).1

/-- The dice that a command rolls can be counted in writing. -/
theorem writable_of_read {r : Reading} (h : read L text = .ok r) : Writable r.expr.rolls := by
  obtain ⟨-, -, -, -, -, hrolls⟩ := sentence_of_read h
  exact hrolls ▸ (readChars_of_read h).2

/-! ## A total that cannot be written -/

/-- The greatest number that can be written. -/
def greatestWritable : Nat :=
  10 ^ maxDigits - 1

theorem succ_greatestWritable : 1 + greatestWritable = 10 ^ maxDigits := by
  have hpos : 0 < 10 ^ maxDigits := Nat.pow_pos (by decide)
  rw [greatestWritable]
  omega

theorem writable_greatestWritable : Writable greatestWritable := by
  rw [writable_iff, Int.natAbs_natCast, ← succ_greatestWritable]
  omega

theorem not_writable_succ_greatestWritable : ¬Writable (1 + greatestWritable : Nat) := by
  rw [writable_iff, Int.natAbs_natCast, ← succ_greatestWritable]
  exact Nat.lt_irrefl _

theorem hundred_le_greatestWritable : 100 ≤ greatestWritable := by
  have hpow : 10 ^ 2 < 10 ^ maxDigits := Nat.pow_lt_pow_right (by decide) (by decide)
  rw [← succ_greatestWritable] at hpow
  omega

/-- A dice term of some dice with six sides. -/
def sixSided (count : Int) : List Char :=
  decimal count ++ ['d', '6']

theorem spells_sixSided {n : Int} (h : Writable n) : Spells (ItemOf · (.dice ⟨n, 6, .sum⟩)) (sixSided n) := by
  have hdecimal : decimal 6 = ['6'] := by decide
  have spelled := spells_dice (d := ⟨n, 6, .sum⟩) h (show Writable 6 by decide)
  rw [hdecimal, if_pos rfl, List.append_nil] at spelled
  exact spelled

/-- Two such terms that are added. -/
def twoTerms (first second : Int) : List Char :=
  sixSided first ++ '+' :: sixSided second

theorem twoTerms_sentence {first second : Int} (h₁ : Writable first) (h₂ : Writable second) :
    ∃ ts, Sentence ts (twoTerms first second)
      (.snoc (.single (.dice ⟨first, 6, .sum⟩)) .add (.dice ⟨second, 6, .sum⟩)) none ∧ ShortNumerals ts := by
  have hrow := spells_snoc .add gap_nil gap_nil (spells_single (spells_sixSided h₁)) (spells_sixSided h₂)
  exact sentence_of_spells hrow

section TwoTerms

variable (items : 2 ≤ (L.itemCount : Nat)) (sides : 6 ≤ (L.sides : Nat)) {n : Nat}
include items sides

/-- The visits of two dice terms exceed nothing but the bound on rolled dice, if the other bounds are not too low. -/
theorem firstExcess_twoTerms :
    firstExcess L {} (Expr.visits 0 (.snoc (.single (.dice ⟨1, 6, .sum⟩)) .add (.dice ⟨n, 6, .sum⟩))) =
      if L.rolls < 1 + n then some (.rolls (1 + n) L.rolls) else none := by
  have hsides : (6 : Int) ≤ L.sides := Int.ofNat_le.2 sides
  have h₁ : (Visit.dice ⟨1, 6, .sum⟩).excess L ⟨1, 1⟩ = none :=
    Visit.excess_dice_eq_none_iff.2 ⟨Nat.le_of_succ_le items, hsides, L.rolls.2⟩
  show ((Visit.dice _).excess L ⟨1, 1⟩).or (((Visit.dice _).excess L ⟨2, 1 + n⟩).or none) = _
  rw [h₁, Option.none_or, Option.or_none]
  by_cases hrolls : L.rolls < 1 + n
  · rw [if_pos hrolls]
    exact Visit.excess_dice_rolls items hsides hrolls
  · rw [if_neg hrolls]
    exact Visit.excess_dice_eq_none_iff.2 ⟨items, hsides, Nat.not_lt.1 hrolls⟩

theorem within_twoTerms (rolls : 1 + n ≤ L.rolls) :
    Within L (.snoc (.single (.dice ⟨1, 6, .sum⟩)) .add (.dice ⟨n, 6, .sum⟩)) none := by
  rw [← firstExcess_eq_none_iff, visits_none, firstExcess_twoTerms items sides]
  exact if_neg (Nat.not_lt.2 rolls)

/-- Two dice terms whose total cannot be written are refused for it, whether or not it exceeds the bound. -/
theorem read_twoTerms (writable : Writable n) (long : ¬Writable (1 + n : Nat)) (htext : text.toList = twoTerms 1 n) :
    read L text = .error (.digits .write) := by
  obtain ⟨ts, sentence, short⟩ := twoTerms_sentence (show Writable 1 by decide) writable
  rw [← htext] at sentence
  rw [read_of_sentence sentence short, visits_none, firstExcess_twoTerms items sides]
  by_cases hrolls : L.rolls < 1 + n
  · rw [if_pos hrolls]
    exact congrArg Except.error (if_neg long)
  · rw [if_neg hrolls]
    exact if_neg long

end TwoTerms

/-- A sentence whose dice terms roll one die more together than can be written. -/
def overlongTotal : String :=
  String.ofList (twoTerms 1 greatestWritable)

/-! ## Acceptance -/

/-- A sentence with short numerals is read just when its tree is within the bounds and the total of its rolled dice can be
written, and then as its tree. -/
theorem read_eq_ok_iff_within (h : Sentence ts text.toList e checker) (short : ShortNumerals ts)
    (r : Expr × Option Checker) :
    (read L text).map (fun r => (r.expr, r.checker)) = .ok r ↔
      Within L e checker ∧ Writable e.rolls ∧ r = (e, checker) := by
  rw [read_of_sentence h short, ← firstExcess_eq_none_iff]
  cases firstExcess L {} (visits e checker) with
  | some first => simp [Except.map]
  | none =>
    unfold Reading.noted
    by_cases hw : Writable e.rolls
    · simp [Except.map, hw, eq_comm]
    · simp [Except.map, hw]

/-- Within a bound on rolled dice that can be written, so can the total of the rolled dice. -/
theorem Within.writable_rolls (within : Within L e checker) (h : Writable (L.rolls : Nat)) : Writable e.rolls :=
  h.of_natAbs_le within.rolls

/-- **A text is read just when it is a sentence with short numerals whose tree is within the bounds**, unless the total of
its rolled dice has too many digits to be noted. Then what is read is the tree of the sentence. As long as the bound on rolled
dice can be written, the total can. -/
theorem read_eq_ok_iff_sentence (L : Limits) (text : String) (e : Expr) (checker : Option Checker) :
    (read L text).map (fun r => (r.expr, r.checker)) = .ok (e, checker) ↔
      (∃ ts, Sentence ts text.toList e checker ∧ ShortNumerals ts) ∧ Within L e checker ∧ Writable e.rolls := by
  constructor
  · intro h
    cases hr : read L text with
    | error err =>
      rw [hr] at h
      cases h
    | ok r =>
      rw [hr] at h
      cases h
      obtain ⟨ts, sentence, short, within, -⟩ := sentence_of_read hr
      exact ⟨⟨ts, sentence, short⟩, within, writable_of_read hr⟩
  · rintro ⟨⟨ts, sentence, short⟩, within, writable⟩
    exact (read_eq_ok_iff_within sentence short _).2 ⟨within, writable, rfl⟩

/-- Two dice terms that roll together as many dice as their bound allows. They are within the bounds, but this total cannot
be written, and so they are not read. -/
theorem read_unnotedTotal :
    let L := { Limits.standard with rolls := ⟨1 + greatestWritable, Nat.le_add_right 1 _⟩ }
    ∃ ts e, Sentence ts overlongTotal.toList e none ∧ ShortNumerals ts ∧ Within L e none ∧
      read L overlongTotal = .error (.digits .write) := by
  have writable := writable_greatestWritable
  have long := not_writable_succ_greatestWritable
  have htext : overlongTotal.toList = twoTerms 1 greatestWritable := String.toList_ofList
  generalize overlongTotal = text at htext ⊢
  generalize greatestWritable = n at writable long htext ⊢
  intro L
  have items : 2 ≤ (L.itemCount : Nat) := show 2 ≤ 20 by decide
  have sides : 6 ≤ (L.sides : Nat) := show 6 ≤ 1000 by decide
  obtain ⟨ts, sentence, short⟩ := twoTerms_sentence (show Writable 1 by decide) writable
  rw [← htext] at sentence
  exact ⟨ts, _, sentence, short, within_twoTerms items sides (Nat.le_refl (1 + n)),
    read_twoTerms items sides writable long htext⟩

example : (read .standard "-2D6 Max x (3 - -04) >= 7").toOption = some
    { expr := .snoc (.single (.dice ⟨-2, 6, .max⟩)) .mul (.group (.snoc (.single (.number 3)) .sub (.number (-4))))
      checker := some ⟨.ge, 7⟩
      items := 3
      rolls := 0 } := by
  decide +kernel

/-! ## The first excess -/

/-- **A sentence beyond the bounds is refused at the first bound that a walk over its tree exceeds.** The report is that
bound's, unless it is a total of rolled dice with too many digits to be written. -/
theorem read_stops_at_first_excess (sentence : Sentence ts text.toList e checker) (short : ShortNumerals ts)
    (exceeds : ¬Within L e checker) :
    ∃ first, firstExcess L {} (visits e checker) = some first ∧
      read L text = .error (if first.Reportable then .overLimit first else .digits .write) := by
  cases hx : firstExcess L {} (visits e checker) with
  | none => exact absurd (firstExcess_eq_none_iff.1 hx) exceeds
  | some first =>
    refine ⟨first, rfl, ?_⟩
    rw [read_of_sentence sentence short, hx]

/-- Of three bounds that this command exceeds, the magnitude of a number is reported: it is met before the sides and the
total of the last term. -/
theorem read_first_of_three_excesses :
    ¬Within .standard (.snoc (.single (.dice ⟨2, 6, .sum⟩)) .add
        (.group (.snoc (.single (.number 70000)) .sub (.dice ⟨99, 1001, .avg⟩)))) none ∧
      read .standard "2d6 + (70000 - 99 D 1001aVg)" = .error (.overLimit (.number 70000 65536)) := by
  have hwide : readChars (Limits.ofFn fun _ => ⟨70000, by decide⟩) "2d6 + (70000 - 99 D 1001aVg)".toList =
      .ok ⟨.snoc (.single (.dice ⟨2, 6, .sum⟩)) .add
        (.group (.snoc (.single (.number 70000)) .sub (.dice ⟨99, 1001, .avg⟩))), none, 3, 101⟩ := by rfl
  obtain ⟨ts, sentence, short⟩ := readChars_sound hwide
  have exceeds : ¬Within .standard (.snoc (.single (.dice ⟨2, 6, .sum⟩)) .add
      (.group (.snoc (.single (.number 70000)) .sub (.dice ⟨99, 1001, .avg⟩)))) none := by
    intro within
    exact absurd (within.sides ⟨99, 1001, .avg⟩ (by decide)) (by decide)
  obtain ⟨first, hfirst, hread⟩ := read_stops_at_first_excess sentence short exceeds
  cases hfirst
  exact ⟨exceeds, hread⟩

/-- The total is the first excess of this sentence, but no bound is reported: the total cannot be written. -/
theorem read_overlongTotal : ∃ ts e, Sentence ts overlongTotal.toList e none ∧ ShortNumerals ts ∧
    firstExcess .standard {} (visits e none) = some (.rolls (1 + greatestWritable) 100) ∧
      read .standard overlongTotal = .error (.digits .write) := by
  have writable := writable_greatestWritable
  have long := not_writable_succ_greatestWritable
  have large := hundred_le_greatestWritable
  have htext : overlongTotal.toList = twoTerms 1 greatestWritable := String.toList_ofList
  generalize overlongTotal = text at htext ⊢
  generalize greatestWritable = n at writable long large htext ⊢
  have items : 2 ≤ (Limits.standard.itemCount : Nat) := show 2 ≤ 20 by decide
  have sides : 6 ≤ (Limits.standard.sides : Nat) := show 6 ≤ 1000 by decide
  obtain ⟨ts, sentence, short⟩ := twoTerms_sentence (show Writable 1 by decide) writable
  rw [← htext] at sentence
  refine ⟨ts, _, sentence, short, ?_, read_twoTerms items sides writable long htext⟩
  rw [visits_none, firstExcess_twoTerms items sides]
  exact if_pos (show 100 < 1 + n by omega)

end DiceNotation
