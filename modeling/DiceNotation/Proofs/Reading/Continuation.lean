import DiceNotation.Proofs.Reading.Stopping

/-!
# What follows does not matter

A bound that is exceeded is reported as soon as it is: whatever is put behind the text, reading stops at the same place and
for the same reason. Only a text that goes on with what is already being read may change that, a longer numeral or a number
that becomes the count of a dice term.

* `Apart`: the texts that do not go on with what stands in front of them.
* `Layout.append_right`, `Head.append_right`: the tokens in front of a place and at it, with more behind them.
* `StoppedBy.append_right`: what stops reading stops it in every longer text.
* `read_append_of_overLimit`: an exceeded bound is reported whatever follows.
-/

namespace DiceNotation

/-- A text that, put behind another one, goes on with none of its numerals and makes none of its numbers a count. -/
def Apart (cs : List Char) : Prop :=
  ∀ c ∈ cs.head?, c.isDigit = false ∧ c ∉ ['d', 'D', ' ', '\t']

section Apart

variable {more rest : List Char}

/-- Where a numeral is at its end, it stays so with more behind it. -/
theorem Ends.append_right (h : Ends rest) (apart : Apart more) : Ends (rest ++ more) := by
  cases rest with
  | nil => exact fun c hc => (apart c hc).1
  | cons c rest => exact h

/-- Such a text starts with no gap and with no letter of a dice term. -/
theorem Apart.head (apart : Apart more) {c : Char} (hc : c ∈ more.head?) :
    Text.isGap c = false ∧ Lexeme.isDiceLetter c = false := by
  have hletters := (apart c hc).2
  simp only [List.mem_cons, List.not_mem_nil, or_false, not_or] at hletters
  simp [Text.isGap, Lexeme.isDiceLetter, hletters]

/-- What is skipped is skipped in front of it. -/
theorem Apart.skipGap_append (apart : Apart more) (cs : List Char) : Text.skipGap (cs ++ more) = Text.skipGap cs ++ more := by
  induction cs with
  | nil =>
    cases more with
    | nil => rfl
    | cons c more => exact Text.skipGap_cons_of_not_isGap (apart.head rfl).1 more
  | cons c cs ih =>
    rw [List.cons_append]
    cases hc : Text.isGap c with
    | true => rw [Text.skipGap_cons_of_isGap hc, Text.skipGap_cons_of_isGap hc, ih]
    | false => rw [Text.skipGap_cons_of_not_isGap hc, Text.skipGap_cons_of_not_isGap hc, List.cons_append]

/-- Where no letter of a dice term stands behind a gap, none does with more behind it. -/
theorem Apart.alone (apart : Apart more) (h : ∀ c ∈ (Text.skipGap rest).head?, Lexeme.isDiceLetter c = false) :
    ∀ c ∈ (Text.skipGap (rest ++ more)).head?, Lexeme.isDiceLetter c = false := by
  rw [apart.skipGap_append]
  cases hskip : Text.skipGap rest with
  | nil => exact fun c hc => (apart.head hc).2
  | cons d tail =>
    rw [hskip] at h
    exact h

end Apart

section Places

variable {L : Limits} {cs mid rest : List Char} {ts us : List Token} {vs : List Visit} {place : Place} {v : Visit}

/-- Tokens are laid out in the same way with more behind them. -/
theorem Layout.append_right (h : Layout ts cs rest) (more : List Char) : Layout ts (cs ++ more) (rest ++ more) := by
  induction h with
  | nil rest => exact .nil (rest ++ more)
  | cons gap spelled _ ih =>
    rw [List.append_assoc, List.append_assoc]
    exact .cons gap spelled ih

theorem Head.append_right {more : List Char} (h : Head place ts rest v) (apart : Apart more) :
    Head place ts (rest ++ more) v := by
  cases h with
  | opening depth => exact .opening depth _
  | dice depth count sides ends => exact .dice depth count sides (ends.append_right apart)
  | number depth n ends alone => exact .number depth n (ends.append_right apart) (apart.alone alone)
  | target n ends => exact .target n (ends.append_right apart)

theorem Reaches.append_right (h : Reaches L cs us vs place mid) (more : List Char) :
    Reaches L (cs ++ more) us vs place (mid ++ more) where
  front := h.front
  short := h.short
  fits := h.fits
  layout := h.layout.append_right more

/-- What stops reading stops it in every longer text. -/
theorem StoppedBy.append_right {stop : Stop} {more : List Char} (h : StoppedBy L cs stop) (apart : Apart more) :
    StoppedBy L (cs ++ more) stop := by
  obtain ⟨us, vs, place, mid, ts, rest, v, reaches, head, layout, hstop⟩ := h
  exact ⟨us, vs, place, mid ++ more, ts, rest ++ more, v, reaches.append_right more, head.append_right apart,
    layout.append_right more, hstop⟩

end Places

/-- **An exceeded bound is reported whatever follows.** If a text is refused for a bound, then every text that starts with it
is refused for the same bound with the same report, unless it goes on with a digit, with the letter of a dice term or with a
gap. What follows may be of any length, and no text of the grammar. -/
theorem read_append_of_overLimit {L : Limits} {text : String} {e : LimitError} (h : read L text = .error (.overLimit e))
    {more : String} (apart : ∀ c ∈ more.toList.head?, c.isDigit = false ∧ c ∉ ['d', 'D', ' ', '\t']) :
    read L (text ++ more) = .error (.overLimit e) := by
  have hstop : ∀ expected rest, Stop.overLimit e ≠ .unexpected expected rest := by simp
  have stopped : StoppedBy L text.toList (.overLimit e) := ((read_eq_error_iff hstop).1 h).resolve_right (by simp)
  have stopped' : StoppedBy L (text ++ more).toList (.overLimit e) := by
    rw [String.toList_append]
    exact stopped.append_right apart
  exact (read_eq_error_iff hstop).2 (.inl stopped')

/-- A number in a group that is not closed, with more groups, letters and an unfinished dice term behind it. -/
theorem read_append_of_overLimit_openGroup :
    read .standard "2d6 x (70000" = .error (.overLimit (.number 70000 65536)) ∧
      read .standard ("2d6 x (70000" ++ "kg)) >= ((3 d") = .error (.overLimit (.number 70000 65536)) := by
  have h : read .standard "2d6 x (70000" = .error (.overLimit (.number 70000 65536)) := by decide +kernel
  refine ⟨h, read_append_of_overLimit h ?_⟩
  intro c hc
  cases hc
  decide

/-- Behind the letter of a dice term the number is a count, and another bound is exceeded. -/
example : read .standard ("2d6 x (70000" ++ "d6") = .error (.overLimit (.rolls 70002 100)) := by
  decide +kernel

end DiceNotation
