import DiceNotation.Proofs.Roll.Outcome
import DiceNotation.Proofs.Session.Steps
import Mathlib.Data.List.Induction

/-!
# What a session keeps over a run

The settings that a session keeps are those of the first load that succeeded since they were last dropped, and they alone
decide what later steps take from the settings. What has been compiled is not touched by them.

* `Session.after`: the session behind some steps.
* `Session.FirstLoad`: the first load of some steps that succeeds and is not dropped again.
* `cached_after_eq_none_iff`, `cached_after_eq_some_iff`: what is kept of the settings behind some steps.
* `Command.roll_options`: the options of a roll decide neither its value nor its draws.
* `settings_loaded_once`: what the steps of a session take from the settings, and what they do not.
-/

namespace DiceNotation

namespace Session

/-- The session behind some steps. -/
def after (s : Session) (steps : List Step) : Session :=
  (run steps s).2

section Runs

variable {s : Session} {S : Settings} {st : Step} {before later : List Step}

theorem run_cons (st : Step) (steps : List Step) (s : Session) :
    run (st :: steps) s = ((step st s).1 :: (run steps (step st s).2).1, (run steps (step st s).2).2) := by
  simp only [run, List.mapM_cons]
  rfl

@[simp] theorem after_nil : s.after [] = s := rfl

@[simp] theorem after_cons (st : Step) (steps : List Step) : s.after (st :: steps) = (step st s).2.after steps := by
  simp [after, run_cons]

theorem after_append (steps steps' : List Step) : s.after (steps ++ steps') = (s.after steps).after steps' := by
  induction steps generalizing s with
  | nil => rfl
  | cons st steps ih => simp [ih]

/-- Every step answers as it does in the session behind the steps before it. -/
theorem getElem?_run (before : List Step) (st : Step) (later : List Step) (s : Session) :
    (run (before ++ st :: later) s).1[before.length]? = some (step st (s.after before)).1 := by
  induction before generalizing s with
  | nil => simp [run_cons]
  | cons st' before ih => simp [run_cons, ih]

/-! ## The environment -/

/-- The environment behind some steps is what their changes make of it. -/
theorem environment_after (s : Session) (steps : List Step) :
    (s.after steps).environment = (steps.flatMap Step.changes).foldl setVariable s.environment := by
  induction steps generalizing s with
  | nil => rfl
  | cons st steps ih => simp [ih, environment_step]

theorem file_after (s : Session) (steps : List Step) : (s.after steps).file = s.file := by
  induction steps generalizing s with
  | nil => rfl
  | cons st steps ih => rw [after_cons, ih, file_step]

/-! ## Loads -/

/-- A step needs the settings, and there are some to be loaded. -/
def Loads (s : Session) (st : Step) (S : Settings) : Prop :=
  s.Asks st ∧ Settings.load s.environment s.file = .ok S

/-- Whatever some steps load is dropped again before their end. -/
def Dropped (s : Session) (steps : List Step) : Prop :=
  ∀ before st later S, steps = before ++ st :: later → (s.after before).Loads st S → .clear ∈ later

/-- The first load of some steps that is not dropped again. -/
def FirstLoad (s : Session) (steps : List Step) (S : Settings) : Prop :=
  ∃ before st later, steps = before ++ st :: later ∧ (s.after before).Loads st S ∧ .clear ∉ later ∧ s.Dropped before

/-- What is kept of the settings stays until they are dropped. -/
theorem cached_after_of_some (h : s.cached = some S) {steps : List Step} (hclear : .clear ∉ steps) :
    (s.after steps).cached = some S := by
  induction steps generalizing s with
  | nil => exact h
  | cons st steps ih =>
    simp only [List.mem_cons, not_or] at hclear
    rw [after_cons]
    refine ih ?_ hclear.2
    by_cases hst : s.Asks st
    · rw [(step_of_asks hst).1, inForce_of_cached h]
      rfl
    · rw [cached_step_of_not_asks hst (Ne.symm hclear.1), h]

/-- A step of some steps and one more is the last one, or one of the others. -/
theorem append_singleton_eq {steps before later : List Step} {last st : Step} :
    steps ++ [last] = before ++ st :: later ↔
      (before = steps ∧ st = last ∧ later = []) ∨
        ∃ later', later = later' ++ [last] ∧ steps = before ++ st :: later' := by
  constructor
  · intro h
    rcases later.eq_nil_or_concat with rfl | ⟨later', last', rfl⟩
    · obtain ⟨rfl, hlast⟩ := List.append_inj' h rfl
      exact .inl ⟨rfl, (List.singleton_inj.1 hlast).symm, rfl⟩
    · rw [List.concat_eq_append, ← List.cons_append, ← List.append_assoc] at h
      obtain ⟨hsteps, hlast⟩ := List.append_inj' h rfl
      exact .inr ⟨later', by rw [List.concat_eq_append, List.singleton_inj.1 hlast], hsteps⟩
  · rintro (⟨rfl, rfl, rfl⟩ | ⟨later', rfl, rfl⟩)
    · rfl
    · simp

theorem dropped_clear (steps : List Step) : s.Dropped (steps ++ [.clear]) := by
  intro before st later S hsteps hload
  rcases append_singleton_eq.1 hsteps with ⟨rfl, rfl, rfl⟩ | ⟨later', rfl, -⟩
  · cases hload.1
  · simp

/-- One more step drops nothing, and may load something. -/
theorem dropped_append_singleton {steps : List Step} (hclear : st ≠ .clear) :
    s.Dropped (steps ++ [st]) ↔ s.Dropped steps ∧ ∀ S, ¬(s.after steps).Loads st S := by
  constructor
  · intro h
    constructor
    · rintro before st' later S rfl hload
      have hmem := h before st' (later ++ [st]) S (by simp) hload
      simpa [hclear.symm] using hmem
    · intro S hload
      exact absurd (h steps st [] S rfl hload) List.not_mem_nil
  · rintro ⟨hsteps, hlast⟩ before st' later S heq hload
    rcases append_singleton_eq.1 heq with ⟨rfl, rfl, rfl⟩ | ⟨later', rfl, rfl⟩
    · exact absurd hload (hlast S)
    · exact List.mem_append_left _ (hsteps before st' later' S rfl hload)

/-- Behind some steps that start without settings none are kept just when whatever was loaded was dropped again. -/
theorem cached_after_eq_none_iff (empty : s.cached = none) (steps : List Step) :
    (s.after steps).cached = none ↔ s.Dropped steps := by
  induction steps using List.reverseRecOn with
  | nil => exact iff_of_true empty fun before st later S h => by simp at h
  | append_singleton steps st ih =>
    rw [after_append, after_cons, after_nil]
    by_cases hclear : st = .clear
    · subst hclear
      exact iff_of_true rfl (dropped_clear steps)
    rw [dropped_append_singleton hclear, ← ih]
    by_cases hst : (s.after steps).Asks st
    · rw [(step_of_asks hst).1]
      cases hcached : (s.after steps).cached with
      | some S => simp [inForce_of_cached hcached, Except.toOption]
      | none =>
        rw [inForce_of_none hcached]
        cases hload : Settings.load (s.after steps).environment (s.after steps).file with
        | error e => simp [Except.toOption, Loads, hload]
        | ok S => simp [Except.toOption, Loads, hload, hst]
    · rw [cached_step_of_not_asks hst hclear]
      simp [Loads, hst]

/-- **The settings kept behind some steps are those of the first load that was not dropped again.** -/
theorem cached_after_eq_some_iff (empty : s.cached = none) (steps : List Step) (S : Settings) :
    (s.after steps).cached = some S ↔ s.FirstLoad steps S := by
  constructor
  · induction steps using List.reverseRecOn with
    | nil => intro h; rw [after_nil, empty] at h; cases h
    | append_singleton steps st ih =>
      rw [after_append, after_cons, after_nil]
      intro h
      have hclear : st ≠ .clear := by
        rintro rfl
        cases h
      -- either the settings were kept before, or this step has loaded them
      cases hcached : (s.after steps).cached with
      | some S' =>
        have hst : .clear ∉ [st] := by simpa using hclear.symm
        have hkept := cached_after_of_some hcached hst
        rw [after_cons, after_nil, h] at hkept
        cases hkept
        obtain ⟨before, st', later, rfl, hload, hlater, hbefore⟩ := ih hcached
        refine ⟨before, st', later ++ [st], by simp, hload, ?_, hbefore⟩
        simp [hlater, hclear.symm]
      | none =>
        have hst : (s.after steps).Asks st := by
          by_contra hst
          rw [cached_step_of_not_asks hst hclear, hcached] at h
          cases h
        rw [(step_of_asks hst).1, inForce_of_none hcached] at h
        refine ⟨steps, st, [], rfl, ⟨hst, ?_⟩, List.not_mem_nil, (cached_after_eq_none_iff empty steps).1 hcached⟩
        cases hload : Settings.load (s.after steps).environment (s.after steps).file with
        | error e => rw [hload] at h; cases h
        | ok S' => rw [hload] at h; cases h; rfl
  · rintro ⟨before, st, later, rfl, ⟨hst, hload⟩, hlater, hbefore⟩
    have hnone := (cached_after_eq_none_iff empty before).2 hbefore
    rw [after_append, after_cons]
    refine cached_after_of_some ?_ hlater
    rw [(step_of_asks hst).1, inForce_of_none hnone, hload]
    rfl

/-! ## Commands -/

/-- A command that is kept under a name stays there until a text is compiled under the name. -/
theorem find?_commands_after {name : String} {c : Command} (h : s.commands.find? name = some c) {steps : List Step}
    (hname : ∀ text limits, .compile name text limits ∉ steps) : (s.after steps).commands.find? name = some c := by
  induction steps generalizing s with
  | nil => exact h
  | cons st steps ih =>
    rw [after_cons]
    refine ih ?_ fun text limits hmem => hname text limits (List.mem_cons_of_mem _ hmem)
    rw [find?_commands_step, h]
    rintro text limits rfl
    exact hname text limits List.mem_cons_self

/-- A text that has been compiled under a name is found there. -/
theorem find?_commands_of_compiled {name text : String} {limits : Option (Entries Json)} {c : Command}
    (h : (step (.compile name text limits) s).1 = .ok (.compiled c)) :
    (step (.compile name text limits) s).2.commands.find? name = some c := by
  have hwith : ∀ (s : Session) r, (s.withCommand name r).1 = .ok (.compiled c) →
      (s.withCommand name r).2.commands.find? name = some c := by
    intro s r hr
    cases r with
    | error e => cases hr
    | ok c' =>
      cases hr
      simp [withCommand, Entries.find?_insert]
  cases limits with
  | none =>
    rw [step_compile_none] at h ⊢
    exact hwith _ _ h
  | some members =>
    cases hm : Limits.ofMembers members with
    | error faults => rw [step_compile_refused hm] at h ⊢; exact hwith _ _ h
    | ok L => rw [step_compile_some hm] at h ⊢; exact hwith _ _ h

end Runs

end Session

/-! ## What the settings decide -/

/-- The options of a roll decide neither its value and its verdict nor what is left of the source. -/
theorem Command.roll_options {σ : Type} [Source σ] (c : Command) (keepDetail keepDetail' : Bool)
    (language language' : Language) (source : σ) :
    (c.roll keepDetail language source).2 = (c.roll keepDetail' language' source).2 ∧
      (c.roll keepDetail language source).1.map (fun r => (r.value, r.success)) =
        (c.roll keepDetail' language' source).1.map fun r => (r.value, r.success) := by
  simp only [Command.roll]
  rcases hroll : c.expr.roll source with ⟨outcome | outcome, after⟩
  · simp [rollCommand_of_error hroll]
  · simp only [rollCommand_of_ok hroll]
    by_cases hw : Writable outcome.value
    · simp [hw, Except.map, ExprRoll.result]
    · simp [hw]

namespace Session

/-- **The settings are loaded once, and what has been compiled does not depend on them.** Let a session start without
settings, and let it be where some steps have led it.

* A run answers the next step as this session does.
* Its environment is what the changes have made of the first one.
* The settings it keeps are those of the first load that has succeeded since the settings were last dropped; without such
  a load it keeps none. They are kept, whatever changes, until they are dropped.
* A step that needs settings keeps the ones in force, which are those that are kept or else those that are loaded now. If
  they cannot be loaded, the step reports this and nothing is kept.
* A text without limits of its own is compiled under those in force. With its own ones it is compiled under them, and
  apart from the commands the session stays as it is.
* A compiled command stays as it is under its name until a text is compiled under the name.
* A roll of a command always needs the settings, and takes from those in force the options it is not told. It comes to what
  the command comes to on the source with these options; value, verdict and what is left of the source are the same with
  any others. -/
theorem settings_loaded_once {s : Session} (empty : s.cached = none) (steps : List Step) :
    let t := s.after steps
    (∀ st later, (run (steps ++ st :: later) s).1[steps.length]? = some (step st t).1) ∧
    (t.environment = (steps.flatMap Step.changes).foldl setVariable s.environment ∧ t.file = s.file) ∧
    ((∀ S, t.cached = some S ↔ s.FirstLoad steps S) ∧ (t.cached = none ↔ s.Dropped steps) ∧
      ∀ S later, t.cached = some S → .clear ∉ later → (t.after later).cached = some S) ∧
    (∀ st, t.Asks st → (∀ S, t.inForce = .ok S → (step st t).2.cached = some S) ∧
      ∀ e, t.inForce = .error e → (step st t).1 = .error (.settings e) ∧ (step st t).2.cached = none) ∧
    (∀ name text, (∀ S, t.inForce = .ok S →
        (step (.compile name text none) t).1 = ((Command.compile S.limits text).mapError .read).map .compiled) ∧
      ∀ members L, Limits.ofMembers members = .ok L →
        (step (.compile name text (some members)) t).1 = ((Command.compile L text).mapError .read).map .compiled ∧
        ∃ commands, (step (.compile name text (some members)) t).2 = { t with commands }) ∧
    (∀ name text limits c later, (step (.compile name text limits) t).1 = .ok (.compiled c) →
      (∀ text' limits', .compile name text' limits' ∉ later) →
      (t.after (.compile name text limits :: later)).commands.find? name = some c) ∧
    ∀ name c sourceName supply keepDetail code (language : Option Language), t.commands.find? name = some c →
      t.supply? sourceName = some supply → code.map Language.ofCode? = language.map some →
      t.Asks (.roll name sourceName keepDetail code) ∧
      ∀ S, t.inForce = .ok S →
        let rolled := c.roll (keepDetail.getD S.detail) (language.getD S.language) supply
        (step (.roll name sourceName keepDetail code) t).1 = (rolled.1.mapError .roll).map .result ∧
        (step (.roll name sourceName keepDetail code) t).2.supply? sourceName = some rolled.2 ∧
        ∀ keepDetail' language', (c.roll keepDetail' language' supply).2 = rolled.2 ∧
          (c.roll keepDetail' language' supply).1.map (fun r => (r.value, r.success)) =
            rolled.1.map fun r => (r.value, r.success) := by
  intro t
  refine ⟨fun st later => getElem?_run steps st later s, ⟨environment_after s steps, file_after s steps⟩,
    ⟨cached_after_eq_some_iff empty steps, cached_after_eq_none_iff empty steps,
      fun S later h hclear => cached_after_of_some h hclear⟩,
    ?asks, ?compile, ?kept, ?roll⟩
  case asks =>
    intro st hst
    obtain ⟨hcached, hfail⟩ := step_of_asks hst
    constructor
    · intro S hS
      simp [hcached, hS, Except.toOption]
    · intro e he
      exact ⟨hfail e he, by simp [hcached, he, Except.toOption]⟩
  case compile =>
    intro name text
    constructor
    · intro S hS
      rw [step_compile_none, hS]
      simp only [SessionM.mapError_ok, bind, Except.bind]
      cases Command.compile S.limits text <;> rfl
    · intro members L hL
      rw [step_compile_some hL]
      cases Command.compile L text with
      | error e => exact ⟨rfl, _, rfl⟩
      | ok c => exact ⟨rfl, _, rfl⟩
  case kept =>
    intro name text limits c later hcompile hlater
    rw [after_cons]
    exact find?_commands_after (find?_commands_of_compiled hcompile) hlater
  case roll =>
    intro name c sourceName supply keepDetail code language hcommand hsource hcode
    constructor
    · refine ⟨by simp [hsource], by simp [hcommand], ?_⟩
      rintro word rfl
      cases language with
      | none => cases hcode
      | some l => simp [Option.some.inj hcode]
    · intro S hS rolled
      rw [step_roll hsource hcommand hcode, outcome_of_ok hS]
      exact ⟨rfl, supply?_withSupply _ _, fun keepDetail' language' => Command.roll_options ..⟩

/-- The first load fails, the second one keeps Chinese, and then the environment asks for fewer sides and for no outcomes.
Only when the settings have been dropped is this heeded, and even then the command with the more sides can be rolled. -/
theorem settings_loaded_once_changed :
    let s : Session := { environment := [("GURGLE_LANGUAGE", "fr")] }
    let steps : List Step := [.settings, .environment [("gurgle_language", some "zh"), ("GURGLE_LANGUAGE", none)],
      .compile "attack" "2d6 > 7" none,
      .environment [("gurgle_language", none), ("GURGLE_DETAIL", some "off"), ("GURGLE_LIMITS__MAX_DICE_SIDES", some "4")],
      .source "points" (.preset [6, 5, 1])]
    let t := s.after steps
    let u := s.after (steps ++ [.clear])
    let attack : Step := .roll "attack" (some "points") none none
    let result : RollResult := ⟨11, some true, some ⟨.gt, 7⟩, some (.single (.dice ⟨⟨2, 6, .sum⟩, [6, 5], 11⟩) 11), .zh⟩
    s.cached = none ∧ s.FirstLoad steps { language := .zh } ∧
      (step attack t).1 = .ok (.result result) ∧
      (step (.compile "attack" "2d6 > 7" none) u).1 = .error (.read (.overLimit (.sides 6 4))) ∧
      (step attack u).1 = .ok (.result { result with detail := none, language := .en }) := by
  intro s steps t u attack result
  have empty : s.cached = none := rfl
  have hkept : t.cached = some { language := .zh } := by decide +kernel
  have hloaded : u.inForce = .ok { limits := { sides := ⟨4, by decide⟩ }, detail := false } := by decide +kernel
  let c : Command := ⟨"2d6 > 7", ⟨.single (.dice ⟨2, 6, .sum⟩), some ⟨.gt, 7⟩, 1, 2⟩⟩
  have hcommand : t.commands.find? "attack" = some c := by decide +kernel
  have hcommand' : u.commands.find? "attack" = some c := by decide +kernel
  -- the points are given last, and nothing behind them touches a source
  have hgiven : ∀ s : Session, (s.after [.source "points" (.preset [6, 5, 1])]).supply? (some "points") =
      some ⟨.preset [6, 5, 1], []⟩ := by
    intro s
    simp [step, Attempt.bind_apply, Attempt.modify_apply, Attempt.pure_apply, supply?, Entries.find?_insert]
  have hcleared : ∀ s : Session, (s.after [.clear]).supply? (some "points") = s.supply? (some "points") := fun _ => rfl
  have hsource : t.supply? (some "points") = some ⟨.preset [6, 5, 1], []⟩ := by
    rw [show t = _ from after_append steps.dropLast [.source "points" (.preset [6, 5, 1])]]
    exact hgiven _
  have hsource' : u.supply? (some "points") = some ⟨.preset [6, 5, 1], []⟩ := by
    rw [show u = t.after [.clear] from after_append steps [.clear]]
    exact (hcleared t).trans hsource
  obtain ⟨-, -, ⟨hfirst, -, -⟩, -, -, -, hroll⟩ := settings_loaded_once empty steps
  obtain ⟨-, -, -, -, hcompile, -, hroll'⟩ := settings_loaded_once empty (steps ++ [.clear])
  refine ⟨empty, (hfirst _).1 hkept, ?_, ?_, ?_⟩
  · obtain ⟨-, hanswer⟩ := hroll "attack" c (some "points") ⟨.preset [6, 5, 1], []⟩ none none none hcommand hsource rfl
    exact (hanswer _ (inForce_of_cached hkept)).1
  · exact (hcompile "attack" "2d6 > 7").1 _ hloaded
  · obtain ⟨-, hanswer⟩ := hroll' "attack" c (some "points") ⟨.preset [6, 5, 1], []⟩ none none none hcommand' hsource' rfl
    exact (hanswer _ hloaded).1

end Session

end DiceNotation
