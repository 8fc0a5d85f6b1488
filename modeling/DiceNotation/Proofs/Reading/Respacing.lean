import DiceNotation.Proofs.Grammar.Tokens
import DiceNotation.Proofs.Refusal

/-!
# Spaces and tabs do not matter

A command may be respaced: what stands in the gaps between its tokens, in front of them and behind them may be any spaces and
tabs, or nothing. In particular any of its spaces and tabs may be left out, since none of them stands in a token.

* `Thinned`: a text without some of its spaces and tabs.
* `Respaced`: a text of the same tokens with other gaps.
* `Layout.respaced`: the tokens of a text stay in place when it is thinned.
* `reportable_of_firstExcess`: an exceeded bound is reported if the total of rolled dice can be written.
* `read_of_respaced`: a command that is thinned or respaced is read as before, under any bounds.
-/

namespace DiceNotation

/-- The second text is the first one without some of its spaces and tabs. -/
inductive Thinned : List Char → List Char → Prop
  | nil : Thinned [] []
  | keep (c : Char) {cs ds : List Char} (rest : Thinned cs ds) : Thinned (c :: cs) (c :: ds)
  | drop {c : Char} {cs ds : List Char} (gap : Text.isGap c = true) (rest : Thinned cs ds) : Thinned (c :: cs) ds

/-- Two texts of some tokens in the same spelling, with gaps of their own in front of each token and at the end. -/
inductive Respaced : List Token → List Char → List Char → Prop
  | ending {g g' : List Char} (gap : Gap g) (gap' : Gap g') : Respaced [] g g'
  | token {t : Token} {ts : List Token} {g g' w cs ds : List Char} (gap : Gap g) (gap' : Gap g') (spelled : t.Spelled w)
      (tail : Respaced ts cs ds) : Respaced (t :: ts) (g ++ (w ++ cs)) (g' ++ (w ++ ds))

/-! ## Thinned texts -/

section Thinned

variable {as bs cs ds g g' w : List Char}

/-- A text in two parts is thinned part by part. -/
theorem Thinned.append_inv (h : Thinned (as ++ bs) ds) :
    ∃ as' bs', ds = as' ++ bs' ∧ Thinned as as' ∧ Thinned bs bs' := by
  induction as generalizing ds with
  | nil => exact ⟨[], ds, rfl, .nil, h⟩
  | cons a as ih =>
    cases h with
    | keep _ rest =>
      obtain ⟨as', bs', rfl, has, hbs⟩ := ih rest
      exact ⟨a :: as', bs', rfl, .keep a has, hbs⟩
    | drop gap rest =>
      obtain ⟨as', bs', rfl, has, hbs⟩ := ih rest
      exact ⟨as', bs', rfl, .drop gap has, hbs⟩

theorem Thinned.gap (h : Thinned g g') (hg : Gap g) : Gap g' := by
  induction h with
  | nil => exact hg
  | keep c _ ih =>
    obtain ⟨hc, hcs⟩ := List.forall_mem_cons.1 hg
    exact List.forall_mem_cons.2 ⟨hc, ih hcs⟩
  | drop _ _ ih => exact ih (List.forall_mem_cons.1 hg).2

/-- Nothing is left out of a text without spaces and tabs. -/
theorem Thinned.eq_self (h : Thinned cs ds) (hcs : ∀ c ∈ cs, Text.isGap c = false) : ds = cs := by
  induction h with
  | nil => rfl
  | keep c _ ih => rw [ih (List.forall_mem_cons.1 hcs).2]
  | drop gap _ _ => exact absurd gap (by simp [(List.forall_mem_cons.1 hcs).1])

/-- All spaces and tabs of a text may be left out. -/
theorem thinned_filter (cs : List Char) : Thinned cs (cs.filter fun c => !Text.isGap c) := by
  induction cs with
  | nil => exact .nil
  | cons c cs ih =>
    cases hc : Text.isGap c with
    | true => simpa [hc] using Thinned.drop hc ih
    | false => simpa [hc] using Thinned.keep c ih

/-- The tokens of a text stay in place when it is thinned. -/
theorem Layout.respaced {ts : List Token} (h : Layout ts cs g) (hg : Gap g) (thinned : Thinned cs ds) :
    Respaced ts cs ds := by
  induction h generalizing ds with
  | nil g => exact .ending hg (thinned.gap hg)
  | cons gap spelled _ ih =>
    obtain ⟨g', rest, rfl, hg', hrest⟩ := thinned.append_inv
    obtain ⟨w', ds, rfl, hw, htail⟩ := hrest.append_inv
    rw [hw.eq_self fun c hc => not_isGap_of_isVisible (spelled.isVisible c hc)]
    exact .token gap (hg'.gap gap) spelled (ih hg htail)

end Thinned

/-! ## Respaced texts -/

section Respaced

variable {ts : List Token} {cs ds : List Char}

/-- Two texts that differ in their gaps only are laid out as the same tokens. -/
theorem Respaced.layouts (h : Respaced ts cs ds) :
    (∃ g, Gap g ∧ Layout ts cs g) ∧ ∃ g, Gap g ∧ Layout ts ds g := by
  induction h with
  | ending gap gap' => exact ⟨⟨_, gap, .nil _⟩, _, gap', .nil _⟩
  | token gap gap' spelled _ ih =>
    obtain ⟨⟨g, hg, layout⟩, g', hg', layout'⟩ := ih
    exact ⟨⟨g, hg, .cons gap spelled layout⟩, g', hg', .cons gap' spelled layout'⟩

theorem Sentence.respaced {e : Expr} {checker : Option Checker} (h : Sentence ts cs e checker) (respaced : Respaced ts cs ds) :
    Sentence ts ds e checker :=
  ⟨h.tree, respaced.layouts.2⟩

end Respaced

/-! ## Totals that are reported -/

section Totals

variable {L : Limits}

theorem Tally.rolls_le_afterAll (vs : List Visit) (k : Tally) : k.rolls ≤ (k.afterAll vs).rolls := by
  induction vs generalizing k with
  | nil => exact Nat.le_refl _
  | cons v vs ih =>
    refine Nat.le_trans ?_ (ih (k.after v))
    cases v with
    | dice d => exact Nat.le_add_right _ _
    | number | opening | target => exact Nat.le_refl _

/-- A total that is too high is at most the total of all visits. -/
theorem total_le_of_firstExcess {vs : List Visit} {k : Tally} {total bound : Nat}
    (h : firstExcess L k vs = some (.rolls total bound)) : total ≤ (k.afterAll vs).rolls := by
  induction vs generalizing k with
  | nil => cases h
  | cons v vs ih =>
    rw [firstExcess, Option.or_eq_some_iff] at h
    rcases h with h | ⟨-, h⟩
    · obtain ⟨-, -, -, -, -, rfl⟩ := Visit.eq_dice_of_excess h
      exact (k.after v).rolls_le_afterAll vs
    · exact ih h

/-- The first excess of a tree is reported if the total of its rolled dice can be written. -/
theorem reportable_of_firstExcess {e : Expr} {checker : Option Checker} {first : LimitError}
    (h : firstExcess L {} (visits e checker) = some first) (writable : Writable e.rolls) : first.Reportable := by
  cases first with
  | itemCount | sides | number | depth => trivial
  | rolls total bound =>
    have hle := total_le_of_firstExcess h
    rw [afterAll_visits] at hle
    exact writable.of_natAbs_le hle

end Totals

/-- **Spaces and tabs between tokens do not matter.** Let a text be read under some bounds. Leave out any of its spaces and
tabs, or put any gaps in front of its tokens and at its end, whatever sequence of tokens with a tree it is. Under any bounds,
reading the new text does what reading the old one does. It gives the same reading, or the report of the same exceeded bound:
the total of rolled dice can be written, since it was noted. -/
theorem read_of_respaced {K : Limits} {text text' : String} {r : Reading} (valid : read K text = .ok r)
    (respaced : Thinned text.toList text'.toList ∨
      ∃ ts e checker, CommandOf ts e checker ∧ Respaced ts text.toList text'.toList) (L : Limits) :
    read L text' = read L text ∧ (read L text = .ok r ∨ ∃ e, read L text = .error (.overLimit e)) := by
  obtain ⟨ts, sentence, short, -, hitems, hrolls⟩ := sentence_of_read valid
  have hgaps : Respaced ts text.toList text'.toList := by
    rcases respaced with thinned | ⟨us, e, checker, tree, hus⟩
    · obtain ⟨g, hg, layout⟩ := sentence.text
      exact layout.respaced hg thinned
    · -- the text is a sentence of the given tokens as well, and so they are its own
      have sentence' : Sentence us text.toList e checker := ⟨tree, hus.layouts.1⟩
      exact sentence'.tokens_unique sentence ▸ hus
  have hread := read_of_sentence (L := L) sentence short
  refine ⟨(read_of_sentence (sentence.respaced hgaps) short).trans hread.symm, ?_⟩
  have writable := writable_of_read valid
  rw [hread]
  cases hx : firstExcess L {} (visits r.expr r.checker) with
  | none =>
    refine .inl (Reading.noted_eq_ok.2 ⟨writable, ?_⟩)
    rw [← hitems, ← hrolls]
  | some first =>
    have reportable := reportable_of_firstExcess hx writable
    refine .inr ⟨first, ?_⟩
    show Except.error (if first.Reportable then _ else _) = _
    rw [if_pos reportable]

/-- An operator and the sign of the numeral behind it stay apart without the space between them, and the sign stays with the
numeral. -/
theorem read_of_respaced_sign :
    let L := { Limits.standard with itemCount := ⟨1, by decide⟩ }
    read .standard "3 - -2>1" = .ok ⟨.snoc (.single (.number 3)) .sub (.number (-2)), some ⟨.gt, 1⟩, 2, 0⟩ ∧
      read .standard "3--2>1" = read .standard "3 - -2>1" ∧ read L "\t3-\t -2 >1 " = .error (.overLimit (.itemCount 1)) := by
  intro L
  have valid : read .standard "3 - -2>1" =
      .ok ⟨.snoc (.single (.number 3)) .sub (.number (-2)), some ⟨.gt, 1⟩, 2, 0⟩ := by decide +kernel
  have thinned : Thinned "3 - -2>1".toList "3--2>1".toList := thinned_filter "3 - -2>1".toList
  have tab : Gap ['\t'] := by simp [Gap, Text.isGap]
  have wide : Gap ['\t', ' '] := by simp [Gap, Text.isGap]
  have respaced : Respaced _ "3 - -2>1".toList "\t3-\t -2 >1 ".toList :=
    .token gap_nil tab (Numeral.spelled_decimal 3) <| .token gap_space gap_nil (.operator .sub) <|
      .token gap_space wide (Numeral.spelled_decimal (-2)) <| .token gap_nil gap_space (.compare .gt) <|
      .token gap_nil gap_nil (Numeral.spelled_decimal 1) <| .ending gap_nil gap_space
  have tree := CommandOf.checked (.snoc .sub (.single (.number (.ofInt 3))) (.number (.ofInt (-2)))) .gt (.ofInt 1)
  have refused : read L "3 - -2>1" = .error (.overLimit (.itemCount 1)) := by decide +kernel
  refine ⟨valid, (read_of_respaced valid (.inl thinned) .standard).1, ?_⟩
  exact (read_of_respaced valid (.inr ⟨_, _, _, tree, respaced⟩) L).1.trans refused

end DiceNotation
