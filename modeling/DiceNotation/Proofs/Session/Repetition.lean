import DiceNotation.Proofs.Counts
import DiceNotation.Proofs.Roll.Taking
import DiceNotation.Proofs.Session.Steps

/-!
# A command rolled some times

The rolls of a command share nothing but the source. From preset points each of them takes as many as the command rolls
dice, and comes to what a single roll comes to on these alone.

* `Session.rollTimes_apply`: in a session some rolls are those of the command, with the options that the settings give.
* `Session.rollTimes_slices`: what some rolls take from preset points, what they come to, and where they stop.
* `Session.rollTimes_overlongProduct`: a roll with enough points that fails for the length of its value.
-/

namespace DiceNotation

/-! ## Compiled commands -/

mutual

theorem ItemOf.known : ∀ {ts : List Token} {item : Item}, ItemOf ts item → ∀ leaf ∈ item.leaves, leaf.isTerm
  | _, _, .number _ | _, _, .dice _ _ | _, _, .diceWith _ _ _ => by
    intro leaf hleaf
    cases List.mem_singleton.1 hleaf
    rfl
  | _, _, .group inner => ExprOf.known inner

/-- Tokens have no items of no known kind. -/
theorem ExprOf.known : ∀ {ts : List Token} {e : Expr}, ExprOf ts e → e.Known
  | _, _, .single only => ItemOf.known only
  | _, _, .snoc _ row last => List.forall_mem_append.2 ⟨ExprOf.known row, ItemOf.known last⟩

end

theorem CommandOf.known {ts : List Token} {e : Expr} {checker : Option Checker} (h : CommandOf ts e checker) :
    e.Known := by
  cases h with
  | bare row => exact row.known
  | checked row _ _ => exact row.known

theorem Command.known_of_compile {L : Limits} {text : String} {c : Command} (h : Command.compile L text = .ok c) :
    c.expr.Known := by
  obtain ⟨-, accepted⟩ := read_of_compile h
  obtain ⟨ts, sentence, -⟩ := sentence_of_read accepted
  exact sentence.tree.known

namespace Session

variable {s : Session} {S : Settings}

/-! ## Rolls in a session -/

/-- Some rolls of a command with the options that the settings in force give. -/
theorem rollTimes_apply {σ : Type} [Source σ] (h : s.inForce = .ok S) (c : Command) (keepDetail : Option Bool)
    (language : Option Language) (times : Nat) (source : σ) :
    (rollTimes c keepDetail language times source s).1 =
      let run := c.rollTimes (keepDetail.getD S.detail) (language.getD S.language) times source
      (run.1, run.2.1.map .roll, run.2.2) := by
  induction times generalizing s source with
  | zero => rfl
  | succ times ih =>
    -- the settings that the first roll needs are still in force for the others
    have hloaded : s.loaded.inForce = .ok S := (inForce_loaded s).trans h
    simp only [rollTimes, Command.rollTimes, bind, StateT.bind, roll_apply, outcome_of_ok h]
    rcases c.roll (keepDetail.getD S.detail) (language.getD S.language) source with ⟨e | r, left⟩
    · rfl
    · have hrest := ih hloaded left
      rcases hrun : rollTimes c keepDetail language times left s.loaded with ⟨run, after⟩
      have hrun' : run = _ := (congrArg Prod.fst hrun).symm.trans hrest
      simp only [SessionM.mapError_ok, StateT.bind, bind, hrun, hrun']
      rfl

/-- **Some rolls of a command on preset points** are single rolls on one slice of the points after the other. Let every die
of a compiled command have a side, and let there be settings.

* The `i`-th result is what a single roll comes to on the `i`-th slice alone, of as many points as the command rolls dice.
* If all rolls succeed, all these slices are taken and no other points. If the points run out, as many rolls have
  succeeded as there are whole slices, and all points are taken. Otherwise the value on the next slice has too many digits
  to be reported, as a single roll on the slice reports as well.
* So without such a slice all rolls succeed just when there are points enough, and else the points run out.
* If a single roll succeeds on each of some slices, the rolls on the slices put together have the results of the slices, in
  their order. -/
theorem rollTimes_slices {L : Limits} {text : String} {c : Command} (compiled : Command.compile L text = .ok c)
    (sides : ∀ d ∈ c.expr.dice, 1 ≤ d.sides) (settings : s.inForce = .ok S) (keepDetail : Option Bool)
    (language : Option Language) (times : Nat) (points : List Int) :
    let n := (c.expr.dice.map fun d => d.count.toNat).sum
    let slice i := (points.drop (i * n)).take n
    let single (points : List Int) := (Session.roll c keepDetail language points s).1
    let (results, failure, left) := (rollTimes c keepDetail language times points s).1
    (∀ i r, results[i]? = some r → single (slice i) = (.ok r, [])) ∧
    (match failure with
      | none => results.length = times ∧ times * n ≤ points.length ∧ left = points.drop (times * n)
      | some (.roll (.exhausted _)) => results.length = points.length / n ∧ points.length < times * n ∧ left = []
      | some (.roll .unwritable) => results.length < times ∧ (results.length + 1) * n ≤ points.length ∧
          single (slice results.length) = (.error (.roll .unwritable), []) ∧
          left = points.drop ((results.length + 1) * n)
      | some _ => False) ∧
    ((∀ i < times, (i + 1) * n ≤ points.length → (single (slice i)).1 ≠ .error (.roll .unwritable)) →
      if times * n ≤ points.length then failure = none else ∃ sides, failure = some (.roll (.exhausted sides))) ∧
    ∀ (result : List Int → RollResult) (blocks : List (List Int)),
      (∀ block ∈ blocks, block.length = n ∧ (single block).1 = .ok (result block)) →
      (rollTimes c keepDetail language blocks.length blocks.flatten s).1 = (blocks.map result, none, []) := by
  intro n slice single
  let roll := c.roll (σ := List Int) (keepDetail.getD S.detail) (language.getD S.language)
  have hsingle : ∀ points, single points = ((roll points).1.mapError .roll, (roll points).2) := by
    intro points
    show (Session.roll c keepDetail language points s).1 = _
    rw [roll_apply, outcome_of_ok settings]
  have hfail : ∀ points, roll points = (.error .unwritable, []) →
      single points = (.error (.roll .unwritable), []) := by
    intro points h
    rw [hsingle, h]
    rfl
  have slices : c.Slices n (keepDetail.getD S.detail) (language.getD S.language) :=
    Command.slices (Command.known_of_compile compiled) sides _ _
  have hout := slices.outcome times points
  rw [rollTimes_apply settings]
  rcases hrun : c.rollTimes (keepDetail.getD S.detail) (language.getD S.language) times points with
    ⟨results, failure, left⟩
  rw [hrun] at hout
  obtain ⟨hrolled, hstopped⟩ := hout
  refine ⟨?rolled, ?stopped, ?all, ?blocks⟩
  case rolled =>
    intro i r hr
    rw [hsingle, show roll _ = _ from hrolled i r hr]
    rfl
  case stopped =>
    cases failure with
    | none => exact hstopped
    | some e =>
      cases e with
      | exhausted missing => exact hstopped
      | unwritable =>
        obtain ⟨hlt, hle, hroll, hleft⟩ := hstopped
        exact ⟨hlt, hle, hfail _ hroll, hleft⟩
      | noSides | unknownItem => exact hstopped
  case all =>
    intro hslices
    cases failure with
    | none => simp [hstopped.2.1]
    | some e =>
      cases e with
      | exhausted missing =>
        rw [if_neg (Nat.not_le.2 hstopped.2.1)]
        exact ⟨missing, rfl⟩
      | unwritable =>
        obtain ⟨hlt, hle, hroll, -⟩ := hstopped
        exact absurd (congrArg Prod.fst (hfail _ hroll)) (hslices results.length hlt hle)
      | noSides | unknownItem => exact hstopped.elim
  case blocks =>
    intro result blocks hblocks
    have hslices : ∀ block ∈ blocks, block.length = n ∧ (roll block).1 = .ok (result block) := by
      intro block hblock
      obtain ⟨hlen, hok⟩ := hblocks block hblock
      refine ⟨hlen, ?_⟩
      rw [hsingle] at hok
      cases hr : (roll block).1 with
      | ok r => rw [hr] at hok; cases hok; rfl
      | error e => rw [hr] at hok; cases hok
    rw [rollTimes_apply settings, slices.rollTimes_flatten hslices]
    rfl

/-- Three rolls of three dice on eight points: two of them succeed, and the third takes the two points that are left. The
points of the first slice and of the second give the results of both the other way round. -/
theorem rollTimes_slices_eightPoints :
    let c : Command := ⟨"2d6 - 1d4max >= 0", ⟨.snoc (.single (.dice ⟨2, 6, .sum⟩)) .sub (.dice ⟨1, 4, .max⟩),
      some ⟨.ge, 0⟩, 2, 3⟩⟩
    let s : Session := { cached := some { detail := false } }
    let result : List Int → RollResult
      | [1, 1, 4] => ⟨-2, some false, some ⟨.ge, 0⟩, none, .zh⟩
      | _ => ⟨9, some true, some ⟨.ge, 0⟩, none, .zh⟩
    Command.compile .standard "2d6 - 1d4max >= 0" = .ok c ∧ (∀ d ∈ c.expr.dice, 1 ≤ d.sides) ∧
      s.inForce = .ok { detail := false } ∧
      (rollTimes c none (some .zh) 3 ([1, 1, 4, 6, 5, 2, 3, 3] : List Int) s).1 =
        ([result [1, 1, 4], result [6, 5, 2]], some (.roll (.exhausted 4)), []) ∧
      (rollTimes c none (some .zh) 2 ([6, 5, 2, 1, 1, 4] : List Int) s).1 =
        ([result [6, 5, 2], result [1, 1, 4]], none, []) := by
  intro c s result
  have compiled : Command.compile .standard "2d6 - 1d4max >= 0" = .ok c := by decide +kernel
  have sides : ∀ d ∈ c.expr.dice, 1 ≤ d.sides := by decide
  have settings : s.inForce = .ok { detail := false } := rfl
  obtain ⟨-, -, -, hblocks⟩ := rollTimes_slices compiled sides settings none (some .zh) 3 [1, 1, 4, 6, 5, 2, 3, 3]
  refine ⟨compiled, sides, settings, rfl, hblocks result [[6, 5, 2], [1, 1, 4]] ?_⟩
  simp only [List.forall_mem_cons]
  exact ⟨⟨rfl, rfl⟩, ⟨rfl, rfl⟩, nofun⟩

/-! ## Long values -/

/-- A number, multiplied by a die with ten sides. -/
def timesDie (n : Int) : List Char :=
  decimal n ++ (['*'] ++ (decimal 1 ++ (['d'] ++ (decimal 10 ++ []))))

theorem timesDie_sentence {n : Int} (h : Writable n) :
    ∃ ts, Sentence ts (timesDie n) (.snoc (.single (.number n)) .mul (.dice ⟨1, 10, .sum⟩)) none ∧
      ShortNumerals ts := by
  have die := spells_dice (d := ⟨1, 10, .sum⟩) (show Writable 1 by decide) (show Writable 10 by decide)
  have hrow := spells_snoc .mul gap_nil gap_nil (spells_single (spells_number h)) die
  simpa [timesDie, Operator.symbol] using sentence_of_spells hrow

/-- The least number with as many digits as can be written, multiplied by a die with ten sides. -/
def overlongProduct : String :=
  String.ofList (timesDie (10 ^ (maxDigits - 1)))

/-- One die is rolled and there is a point for it, but the roll fails: the value cannot be written. -/
theorem rollTimes_overlongProduct : ∃ (L : Limits) (c : Command) (s : Session) (S : Settings),
    Command.compile L overlongProduct = .ok c ∧ c.expr.dice = [⟨1, 10, .sum⟩] ∧ s.inForce = .ok S ∧
      (rollTimes c none none 1 ([10] : List Int) s).1 = ([], some (.roll .unwritable), []) := by
  obtain ⟨k, hk⟩ : ∃ k, maxDigits = k + 1 := ⟨4299, rfl⟩
  obtain ⟨n, hn⟩ : ∃ n : Nat, 10 ^ k = n := ⟨_, rfl⟩
  have hpos : 0 < n := by
    rw [← hn]
    exact Nat.pow_pos (by decide)
  have hshort : Writable n := by
    rw [writable_iff, Int.natAbs_natCast, ← hn, hk]
    exact Nat.pow_lt_pow_right (by decide) (Nat.lt_succ_self k)
  have hlong : ¬Writable (n * 10) := by
    rw [writable_iff, hk, Nat.pow_succ, hn]
    omega
  let e : Expr := .snoc (.single (.number n)) .mul (.dice ⟨1, 10, .sum⟩)
  let L : Limits := { number := ⟨n, hpos⟩ }
  have within : Within L e none := by
    have hdice : ∀ d ∈ [(⟨1, 10, .sum⟩ : Dice)], d.sides ≤ (1000 : Nat) := by decide
    have hnumbers : ∀ m ∈ [(n : Int)], m.natAbs ≤ n := by simp
    exact ⟨show 2 ≤ 20 by decide, hdice, show 1 ≤ 100 by decide, hnumbers, nofun, show 0 ≤ 32 by decide⟩
  have compiled : Command.compile L overlongProduct = .ok ⟨overlongProduct, ⟨e, none, 2, 1⟩⟩ := by
    have hsource : overlongProduct = String.ofList (timesDie n) := by
      rw [overlongProduct, hk, Nat.add_sub_cancel, ← hn, Int.natCast_pow]
      rfl
    obtain ⟨ts, sentence, short⟩ := timesDie_sentence hshort
    rw [← String.toList_ofList (l := timesDie n), ← hsource] at sentence
    have noted : (Reading.mk e none 2 1).noted = .ok ⟨e, none, 2, 1⟩ :=
      Reading.noted_eq_ok.2 ⟨show Writable 1 by decide, rfl⟩
    rw [Command.compile, (read_of_within sentence short within).trans noted]
    rfl
  refine ⟨L, _, { cached := some {} }, {}, compiled, rfl, rfl, ?_⟩
  have hroll : e.roll ([10] : List Int) =
    (.ok (.snoc (.single (.number n) n) .mul (.dice ⟨⟨1, 10, .sum⟩, [10], 10⟩) (n * 10)), []) := rfl
  have hcommand : Command.roll ⟨overlongProduct, ⟨e, none, 2, 1⟩⟩ true .en ([10] : List Int) =
      (.error .unwritable, []) := by
    refine (rollCommand_of_ok hroll).trans ?_
    rw [ExprRoll.value, if_neg hlong]
  rw [rollTimes_apply (S := {}) rfl]
  simp only [Command.rollTimes, Option.getD_none, hcommand, Option.map_some]

end Session

end DiceNotation
