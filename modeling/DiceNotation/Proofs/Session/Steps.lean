import DiceNotation.Session

/-!
# What the steps of a session do

Each part of a session is described by its answer and the session behind it. Only one part needs the settings: they are
taken from those kept, or else loaded and then kept.

* `Session.inForce`, `Session.loaded`: the settings that the next need of them gives, and the session behind it.
* `Session.outcome`: what a command comes to on a source in a session.
* `Session.Asks`: a step of a session needs the settings.
* `step_of_asks`, `cached_step_of_not_asks`: what a step keeps of the settings.
* `step_keeps`: a step leaves alone what the settings and the sources have no part in.
-/

namespace DiceNotation

/-! ## Errors made failures -/

namespace SessionM

variable {ε ε' α : Type} (f : ε → ε')

theorem mapError_ok (a : α) : (Except.ok a : Except ε α).mapError f = .ok a := rfl

theorem mapError_error (e : ε) : (Except.error e : Except ε α).mapError f = .error (f e) := rfl

end SessionM

namespace Session

open Attempt SessionM

variable {s : Session}

theorem ofExcept_apply {ε α : Type} (failure : ε → Failure) (x : Except ε α) (s : Session) :
    ofExcept failure x s = (x.mapError failure, s) := by
  cases x <;> rfl

/-! ## Settings -/

/-- The settings that the next need of them gives: those kept, or else those loaded then. -/
def inForce (s : Session) : Except LoadError Settings :=
  match s.cached with
  | some S => .ok S
  | none => Settings.load s.environment s.file

/-- The session behind a need of the settings: what could be given is kept. -/
def loaded (s : Session) : Session :=
  { s with cached := s.inForce.toOption }

theorem inForce_of_cached {S : Settings} (h : s.cached = some S) : s.inForce = .ok S := by
  simp [inForce, h]

theorem inForce_of_none (h : s.cached = none) : s.inForce = Settings.load s.environment s.file := by
  simp [inForce, h]

/-- A second need of the settings gives the same as the first. -/
theorem inForce_loaded (s : Session) : s.loaded.inForce = s.inForce := by
  cases h : s.inForce with
  | ok S => exact inForce_of_cached (by simp [loaded, h, Except.toOption])
  | error e =>
    have hcached : s.cached = none := by
      cases hs : s.cached with
      | none => rfl
      | some S => rw [inForce_of_cached hs] at h; cases h
    rw [inForce_of_none (by simp [loaded, h, Except.toOption]), ← h, inForce_of_none hcached]
    rfl

theorem load_apply (s : Session) : load s = ((Settings.load s.environment s.file).mapError .settings, s) := by
  rw [load, bind_of_ok (get_apply s), ofExcept_apply]

theorem settings_apply (s : Session) : settings s = (s.inForce.mapError .settings, s.loaded) := by
  obtain ⟨environment, file, cached, commands, sources, common⟩ := s
  rw [settings, bind_of_ok (get_apply _)]
  cases cached with
  | some S => rfl
  | none =>
    simp only [bind_apply, load_apply, loaded, inForce]
    cases Settings.load environment file <;> rfl

/-! ## Commands and sources -/

theorem compile_some_apply (L : Limits) (text : String) (s : Session) :
    compile (some L) text s = ((Command.compile L text).mapError .read, s) :=
  ofExcept_apply _ _ _

theorem compile_none_of_ok {S : Settings} (h : s.inForce = .ok S) (text : String) :
    compile none text s = ((Command.compile S.limits text).mapError .read, s.loaded) := by
  have hs : settings s = (.ok S, s.loaded) := by rw [settings_apply, h]; rfl
  exact (bind_of_ok hs _).trans (ofExcept_apply _ _ _)

theorem compile_none_of_error {e : LoadError} (h : s.inForce = .error e) (text : String) :
    compile none text s = (.error (.settings e), s.loaded) := by
  have hs : settings s = (.error (.settings e), s.loaded) := by rw [settings_apply, h]; rfl
  exact bind_of_error hs _

/-- What a command comes to on a source: the settings give the options that are left open. -/
def outcome {σ : Type} [Source σ] (s : Session) (c : Command) (keepDetail : Option Bool) (language : Option Language)
    (source : σ) : Except Failure RollResult × σ :=
  match s.inForce with
  | .error e => (.error (.settings e), source)
  | .ok S =>
    let rolled := c.roll (keepDetail.getD S.detail) (language.getD S.language) source
    (rolled.1.mapError .roll, rolled.2)

theorem outcome_of_ok {σ : Type} [Source σ] {S : Settings} (h : s.inForce = .ok S) (c : Command)
    (keepDetail : Option Bool) (language : Option Language) (source : σ) :
    s.outcome c keepDetail language source =
      let rolled := c.roll (keepDetail.getD S.detail) (language.getD S.language) source
      (rolled.1.mapError .roll, rolled.2) := by
  simp only [outcome, h]

theorem roll_apply {σ : Type} [Source σ] (c : Command) (keepDetail : Option Bool) (language : Option Language)
    (source : σ) (s : Session) :
    roll c keepDetail language source s = (s.outcome c keepDetail language source, s.loaded) := by
  have hrun : settings.run s = (s.inForce.mapError .settings, s.loaded) := settings_apply s
  simp only [roll, bind, StateT.bind, hrun, outcome]
  cases s.inForce <;> rfl

/-- The source with a name, or the common one. -/
def supply? (s : Session) : Option String → Option (Recorded Supply)
  | none => some s.common
  | some name => s.sources.find? name

/-- The session with a source in the place of the one with a name, or of the common one. -/
def withSupply (s : Session) (name : Option String) (supply : Recorded Supply) : Session :=
  match name with
  | none => { s with common := supply }
  | some name => { s with sources := s.sources.insert name supply }

@[simp] theorem cached_withSupply (name : Option String) (supply : Recorded Supply) :
    (s.withSupply name supply).cached = s.cached := by
  cases name <;> rfl

@[simp] theorem supply?_withSupply (name : Option String) (supply : Recorded Supply) :
    (s.withSupply name supply).supply? name = some supply := by
  cases name with
  | none => rfl
  | some name => simp [withSupply, supply?, Entries.find?_insert]

theorem source_of_some {name : Option String} {supply : Recorded Supply} (h : s.supply? name = some supply) :
    source name s = (.ok supply, s) := by
  cases name with
  | none => cases h; rfl
  | some name => simp [source, bind_apply, get_apply, show s.sources.find? name = some supply from h, pure_apply]

theorem source_of_none {name : Option String} (h : s.supply? name = none) : ∃ e, source name s = (.error e, s) := by
  cases name with
  | none => cases h
  | some name =>
    refine ⟨.missing name, ?_⟩
    simp [source, bind_apply, get_apply, show s.sources.find? name = none from h, throw_apply]

theorem command_of_some {name : String} {c : Command} (h : s.commands.find? name = some c) :
    command name s = (.ok c, s) := by
  simp [command, bind_apply, get_apply, h, pure_apply]

theorem command_of_none {name : String} (h : s.commands.find? name = none) :
    command name s = (.error (.missing name), s) := by
  simp [command, bind_apply, get_apply, h, throw_apply]

/-- A roll on a source of the session puts what is left of the source in its place. -/
theorem rollOn_apply (name : Option String) (supply : Recorded Supply) (c : Command) (keepDetail : Option Bool)
    (language : Option Language) (s : Session) :
    rollOn name supply c keepDetail language s =
      ((s.outcome c keepDetail language supply).1,
        s.loaded.withSupply name (s.outcome c keepDetail language supply).2) := by
  have hput : ∀ supply s, putSource name supply s = (.ok (), s.withSupply name supply) := by
    intro supply s
    cases name <;> rfl
  simp only [rollOn, bind_apply, lift_apply, roll_apply, hput, ofExcept_apply]
  cases (s.outcome c keepDetail language supply).1 <;> rfl

/-! ## Steps -/

/-- A step gets as far as to need the settings. -/
def Asks (s : Session) : Step → Prop
  | .settings | .compile _ _ none => True
  | .rollText _ sourceName | .rollOnce _ sourceName => (s.supply? sourceName).isSome
  | .roll name sourceName _ code =>
    (s.supply? sourceName).isSome ∧ (s.commands.find? name).isSome ∧ ∀ word ∈ code, (Language.ofCode? word).isSome
  | _ => False

/-- A text compiled under a name: the command is kept under the name, and nothing is if there is none. -/
def withCommand (s : Session) (name : String) (r : Except Failure Command) : Except Failure Answer × Session :=
  match r with
  | .error e => (.error e, { s with commands := s.commands.erase name })
  | .ok c => (.ok (.compiled c), { s with commands := (s.commands.erase name).insert name c })

theorem step_compile_some {members : Entries Json} {L : Limits} (h : Limits.ofMembers members = .ok L)
    (name text : String) (s : Session) :
    step (.compile name text (some members)) s = s.withCommand name ((Command.compile L text).mapError .read) := by
  simp only [step, bind_apply, modify_apply, Option.mapM_some, map_apply, ofExcept_apply, h, mapError_ok, Except.map,
    compile_some_apply]
  cases Command.compile L text <;> rfl

theorem step_compile_refused {members : Entries Json} {faults : List Fault} (h : Limits.ofMembers members = .error faults)
    (name text : String) (s : Session) :
    step (.compile name text (some members)) s = s.withCommand name (.error (.settings (.refused faults))) := by
  simp only [step, bind_apply, modify_apply, Option.mapM_some, map_apply, ofExcept_apply, h]
  rfl

theorem step_compile_none (name text : String) (s : Session) :
    step (.compile name text none) s = s.loaded.withCommand name
      (s.inForce.mapError .settings >>= fun S => (Command.compile S.limits text).mapError .read) := by
  simp only [step, bind_apply, modify_apply, Option.mapM_none, pure_apply]
  -- the name is given up before the settings are needed, and they do not depend on it
  have hsame : inForce { s with commands := s.commands.erase name } = s.inForce := rfl
  have hloaded : loaded { s with commands := s.commands.erase name } =
      { s.loaded with commands := s.commands.erase name } := rfl
  cases h : s.inForce with
  | error e =>
    rw [compile_none_of_error (hsame.trans h), hloaded]
    rfl
  | ok S =>
    rw [compile_none_of_ok (hsame.trans h), hloaded]
    simp only [mapError_ok, bind, Except.bind]
    cases Command.compile S.limits text <;> rfl

/-- A roll of a command that there is, on a source that there is. -/
theorem step_roll {name : String} {sourceName : Option String} {code : Option String} {c : Command}
    {supply : Recorded Supply} {language : Option Language} (hsource : s.supply? sourceName = some supply)
    (hcommand : s.commands.find? name = some c) (hcode : code.map Language.ofCode? = language.map some)
    (keepDetail : Option Bool) :
    step (.roll name sourceName keepDetail code) s =
      (((s.outcome c keepDetail language supply).1).map .result,
        s.loaded.withSupply sourceName (s.outcome c keepDetail language supply).2) := by
  have hlanguage : (code.mapM fun code => ofExcept .word (Vocabulary.language.lookUp Language.ofCode? code) :
      SessionM (Option Language)) s = (.ok language, s) := by
    cases code with
    | none =>
      cases language with
      | none => rfl
      | some l => cases hcode
    | some code =>
      cases language with
      | none => cases hcode
      | some l =>
        have hl : Language.ofCode? code = some l := Option.some.inj hcode
        simp [map_apply, ofExcept_apply, Vocabulary.lookUp, hl, mapError_ok, Except.map]
  have hroll := rollOn_apply sourceName supply c keepDetail language s
  simp only [step]
  rw [bind_of_ok (source_of_some hsource), bind_of_ok (command_of_some hcommand), bind_of_ok hlanguage, bind_apply, hroll]
  cases (s.outcome c keepDetail language supply).1 <;> rfl

/-- A text that is compiled and rolled at once needs the settings first of all. -/
theorem compile_rollOn (text : String) (sourceName : Option String) (supply : Recorded Supply)
    (keepDetail : Option Bool) (answer : RollResult → Answer) (s : Session) :
    let x : SessionM Answer := compile none text >>= fun c =>
      rollOn sourceName supply c keepDetail none >>= fun r => pure (answer r)
    (x s).2.cached = s.inForce.toOption ∧ ∀ e, s.inForce = .error e → (x s).1 = .error (.settings e) := by
  intro x
  cases h : s.inForce with
  | error e =>
    have hx : x s = (.error (.settings e), s.loaded) := bind_of_error (compile_none_of_error h text) _
    refine ⟨by simp [hx, loaded, h], ?_⟩
    rintro _ ⟨⟩
    rw [hx]
  | ok S =>
    refine ⟨?_, by rintro _ ⟨⟩⟩
    have hcompile := compile_none_of_ok h text
    cases hc : Command.compile S.limits text with
    | error e =>
      rw [hc] at hcompile
      have hx : x s = (.error (.read e), s.loaded) := bind_of_error hcompile _
      simp [hx, loaded, h]
    | ok c =>
      rw [hc] at hcompile
      have hx : x s = (rollOn sourceName supply c keepDetail none >>= fun r => pure (answer r)) s.loaded :=
        bind_of_ok hcompile _
      rw [hx, bind_apply, rollOn_apply]
      have hcached : (s.loaded.loaded.withSupply sourceName (s.loaded.outcome c keepDetail none supply).2).cached =
          some S := by
        rw [cached_withSupply, loaded, inForce_loaded, h]
        rfl
      cases (s.loaded.outcome c keepDetail none supply).1 <;> exact hcached

/-- **A step that needs the settings** keeps them if they are given, and reports that they cannot be loaded if not. -/
theorem step_of_asks {st : Step} (h : s.Asks st) :
    (step st s).2.cached = s.inForce.toOption ∧
      ∀ e, s.inForce = .error e → (step st s).1 = .error (.settings e) := by
  cases st with
  | settings =>
    have hsettings := settings_apply s
    simp only [step, bind_apply, hsettings]
    cases hs : s.inForce with
    | error e => exact ⟨by simp [mapError_error, loaded, hs], by rintro _ ⟨⟩; rfl⟩
    | ok S => exact ⟨by simp [mapError_ok, loaded, hs, pure_apply], by rintro _ ⟨⟩⟩
  | compile name text limits =>
    cases limits with
    | some members => cases h
    | none =>
      rw [step_compile_none]
      cases hs : s.inForce with
      | error e => exact ⟨by simp [mapError_error, bind, Except.bind, withCommand, loaded, hs], by rintro _ ⟨⟩; rfl⟩
      | ok S =>
        refine ⟨?_, by rintro _ ⟨⟩⟩
        simp only [mapError_ok, bind, Except.bind]
        cases Command.compile S.limits text <;> simp [mapError_ok, mapError_error, withCommand, loaded, hs]
  | roll name sourceName keepDetail code =>
    obtain ⟨hsource, hcommand, hcode⟩ := h
    obtain ⟨supply, hsource⟩ := Option.isSome_iff_exists.1 hsource
    obtain ⟨c, hcommand⟩ := Option.isSome_iff_exists.1 hcommand
    obtain ⟨language, hcode⟩ : ∃ language : Option Language, code.map Language.ofCode? = language.map some := by
      cases code with
      | none => exact ⟨none, rfl⟩
      | some word =>
        obtain ⟨l, hl⟩ := Option.isSome_iff_exists.1 (hcode word rfl)
        exact ⟨some l, congrArg some hl⟩
    rw [step_roll hsource hcommand hcode]
    refine ⟨cached_withSupply _ _, ?_⟩
    intro e he
    simp [outcome, he, Except.map]
  | rollText text sourceName =>
    obtain ⟨supply, hsource⟩ := Option.isSome_iff_exists.1 h
    simp only [step]
    rw [bind_of_ok (source_of_some hsource)]
    exact compile_rollOn text sourceName supply none .result s
  | rollOnce text sourceName =>
    obtain ⟨supply, hsource⟩ := Option.isSome_iff_exists.1 h
    simp only [step]
    rw [bind_of_ok (source_of_some hsource)]
    exact compile_rollOn text sourceName supply (some false) (fun r => .value r.value) s
  | environment | clear | fresh | source | sourceState | describe | equal => cases h

/-- A step that does not need the settings leaves alone what is kept of them, unless it drops them. -/
theorem cached_step_of_not_asks {st : Step} (h : ¬s.Asks st) (hclear : st ≠ .clear) :
    (step st s).2.cached = s.cached := by
  have hlookUp : ∀ {α β : Type} {x : SessionM α} {f : α → SessionM β}, (∃ e, x s = (.error e, s)) →
      ((x >>= f) s).2.cached = s.cached := by
    rintro α β x f ⟨e, hx⟩
    rw [bind_of_error hx]
  cases st with
  | environment changes => rfl
  | clear => exact absurd rfl hclear
  | settings => exact absurd trivial h
  | fresh =>
    simp only [step, bind_apply, load_apply]
    cases Settings.load s.environment s.file <;> rfl
  | source name supply => rfl
  | sourceState name =>
    simp only [step]
    cases hs : s.supply? (some name) with
    | none => exact hlookUp (source_of_none hs)
    | some supply => rw [bind_of_ok (source_of_some hs)]; rfl
  | compile name text limits =>
    cases limits with
    | none => exact absurd trivial h
    | some members =>
      cases hm : Limits.ofMembers members with
      | error faults => rw [step_compile_refused hm]; rfl
      | ok L =>
        rw [step_compile_some hm]
        cases Command.compile L text <;> rfl
  | describe name =>
    simp only [step]
    cases hc : s.commands.find? name with
    | none => exact hlookUp ⟨_, command_of_none hc⟩
    | some c => rw [bind_of_ok (command_of_some hc)]; rfl
  | equal first second =>
    simp only [step]
    cases hc : s.commands.find? first with
    | none => exact hlookUp ⟨_, command_of_none hc⟩
    | some c =>
      rw [bind_of_ok (command_of_some hc)]
      cases hc' : s.commands.find? second with
      | none => exact hlookUp ⟨_, command_of_none hc'⟩
      | some c' => rw [bind_of_ok (command_of_some hc')]; rfl
  | roll name sourceName keepDetail code =>
    simp only [step]
    cases hs : s.supply? sourceName with
    | none => exact hlookUp (source_of_none hs)
    | some supply =>
      rw [bind_of_ok (source_of_some hs)]
      cases hc : s.commands.find? name with
      | none => exact hlookUp ⟨_, command_of_none hc⟩
      | some c =>
        rw [bind_of_ok (command_of_some hc)]
        cases code with
        | none => exact absurd ⟨by simp [hs], by simp [hc], nofun⟩ h
        | some word =>
          cases hl : Language.ofCode? word with
          | none =>
            exact hlookUp ⟨_, by
              simp [map_apply, ofExcept_apply, Vocabulary.lookUp, hl, mapError_error, Except.map]
              rfl⟩
          | some l => exact absurd ⟨by simp [hs], by simp [hc], by rintro _ ⟨⟩; simp [hl]⟩ h
  | rollText text sourceName | rollOnce text sourceName =>
    simp only [step]
    cases hs : s.supply? sourceName with
    | none => exact hlookUp (source_of_none hs)
    | some supply => exact absurd (by simp [Asks, hs]) h

/-! ## What steps leave alone -/

/-- Something of a session in which the settings that are kept and the sources have no part. -/
structure Independent {β : Type} (f : Session → β) : Prop where
  cached : ∀ s S, f { s with cached := S } = f s
  sources : ∀ s sources, f { s with sources } = f s
  common : ∀ s common, f { s with common } = f s

/-- A part of a session leaves something of it alone. -/
def Keeps {α β : Type} (f : Session → β) (x : SessionM α) : Prop :=
  ∀ s, f (x s).2 = f s

section Keeps

variable {α β γ : Type} {f : Session → γ}

theorem keeps_pure (a : α) : Keeps f (pure a : SessionM α) :=
  fun _ => rfl

theorem keeps_ofExcept {ε : Type} (failure : ε → Failure) (x : Except ε α) : Keeps f (ofExcept failure x) := by
  intro s
  rw [ofExcept_apply]

theorem Keeps.bind {x : SessionM α} {g : α → SessionM β} (hx : Keeps f x) (hg : ∀ a, Keeps f (g a)) :
    Keeps f (x >>= g) := by
  intro s
  have h := hx s
  rcases hxs : x s with ⟨r, s'⟩
  rw [hxs] at h
  cases r with
  | error e => rw [bind_of_error hxs]; exact h
  | ok a => rw [bind_of_ok hxs]; exact (hg a s').trans h

theorem Independent.loaded (hf : Independent f) (s : Session) : f s.loaded = f s :=
  hf.cached s _

theorem Independent.withSupply (hf : Independent f) (s : Session) (name : Option String) (supply : Recorded Supply) :
    f (s.withSupply name supply) = f s := by
  cases name with
  | none => exact hf.common s supply
  | some name => exact hf.sources s _

theorem keeps_settings (hf : Independent f) : Keeps f settings := by
  intro s
  rw [settings_apply]
  exact hf.loaded s

theorem keeps_source (name : Option String) : Keeps f (source name) := by
  intro s
  cases hs : s.supply? name with
  | none => obtain ⟨e, he⟩ := source_of_none hs; rw [he]
  | some supply => rw [source_of_some hs]

theorem keeps_command (name : String) : Keeps f (command name) := by
  intro s
  cases hc : s.commands.find? name with
  | none => rw [command_of_none hc]
  | some c => rw [command_of_some hc]

theorem keeps_compile (hf : Independent f) (text : String) : Keeps f (compile none text) :=
  (keeps_settings hf).bind fun _ => keeps_ofExcept _ _

theorem keeps_rollOn (hf : Independent f) (name : Option String) (supply : Recorded Supply) (c : Command)
    (keepDetail : Option Bool) (language : Option Language) : Keeps f (rollOn name supply c keepDetail language) := by
  intro s
  rw [rollOn_apply]
  exact (hf.withSupply _ _ _).trans (hf.loaded s)

/-- **A step leaves alone what the settings and the sources have no part in**, if the environment that it changes and
the name that it compiles a text under have none either. -/
theorem step_keeps (hf : Independent f) {st : Step}
    (henvironment : ∀ changes, st = .environment changes → ∀ s environment, f { s with environment } = f s)
    (hcompile : ∀ name text limits, st = .compile name text limits → ∀ s r, f (withCommand s name r).2 = f s) :
    Keeps f (step st) := by
  cases st with
  | environment changes => exact fun s => henvironment changes rfl s _
  | clear => exact fun s => hf.cached s none
  | settings => exact (keeps_settings hf).bind fun _ => keeps_pure _
  | fresh =>
    refine Keeps.bind (fun s => ?_) fun _ => keeps_pure _
    rw [load_apply]
  | source name supply => exact fun s => hf.sources s _
  | sourceState name => exact (keeps_source _).bind fun _ => keeps_pure _
  | compile name text limits =>
    intro s
    cases limits with
    | none =>
      rw [step_compile_none, hcompile name text none rfl]
      exact hf.loaded s
    | some members =>
      cases hm : Limits.ofMembers members with
      | error faults => rw [step_compile_refused hm, hcompile name text _ rfl]
      | ok L => rw [step_compile_some hm, hcompile name text _ rfl]
  | describe name => exact (keeps_command name).bind fun _ => keeps_pure _
  | equal first second => exact (keeps_command first).bind fun _ => (keeps_command second).bind fun _ => keeps_pure _
  | roll name sourceName keepDetail code =>
    refine (keeps_source sourceName).bind fun supply => (keeps_command name).bind fun c => ?_
    have hroll : ∀ language, Keeps f (rollOn sourceName supply c keepDetail language) :=
      keeps_rollOn hf sourceName supply c keepDetail
    cases code with
    | none => exact (keeps_pure _).bind fun _ => (hroll _).bind fun _ => keeps_pure _
    | some word =>
      refine Keeps.bind (fun s => ?_) fun _ => (hroll _).bind fun _ => keeps_pure _
      rw [Option.mapM_some, map_apply, ofExcept_apply]
  | rollText text sourceName | rollOnce text sourceName =>
    refine (keeps_source sourceName).bind fun supply => (keeps_compile hf text).bind fun c => ?_
    exact (keeps_rollOn hf sourceName supply c _ none).bind fun _ => keeps_pure _

end Keeps

/-- The variables that a step sets or unsets. -/
def Step.changes : Step → Entries (Option String)
  | .environment changes => changes
  | _ => []

theorem environment_step (st : Step) (s : Session) :
    (step st s).2.environment = st.changes.foldl setVariable s.environment := by
  have hindependent : Independent Session.environment := ⟨fun _ _ => rfl, fun _ _ => rfl, fun _ _ => rfl⟩
  have hcommand : ∀ (s : Session) name r, (s.withCommand name r).2.environment = s.environment := by
    intro s name r
    cases r <;> rfl
  have hkeeps : (∀ changes, st ≠ .environment changes) → (step st s).2.environment = s.environment := fun h =>
    step_keeps hindependent (fun changes hst => absurd hst (h changes)) (fun _ _ _ _ s r => hcommand s _ r) s
  cases st with
  | environment changes => rfl
  | _ => exact hkeeps (by rintro _ ⟨⟩)

theorem file_step (st : Step) (s : Session) : (step st s).2.file = s.file := by
  have hindependent : Independent Session.file := ⟨fun _ _ => rfl, fun _ _ => rfl, fun _ _ => rfl⟩
  have hcommand : ∀ (s : Session) name r, (s.withCommand name r).2.file = s.file := by
    intro s name r
    cases r <;> rfl
  exact step_keeps hindependent (fun _ _ _ _ => rfl) (fun _ _ _ _ s r => hcommand s _ r) s

/-- A command stays as it is until a text is compiled under its name. -/
theorem find?_commands_step {name : String} {st : Step} (h : ∀ text limits, st ≠ .compile name text limits)
    (s : Session) : (step st s).2.commands.find? name = s.commands.find? name := by
  have hindependent : Independent fun s => s.commands.find? name := ⟨fun _ _ => rfl, fun _ _ => rfl, fun _ _ => rfl⟩
  have hcommand : ∀ (s : Session) other r, other ≠ name →
      (s.withCommand other r).2.commands.find? name = s.commands.find? name := by
    intro s other r hne
    cases r with
    | error e => simp [withCommand, Entries.find?_erase, hne.symm]
    | ok c => simp [withCommand, Entries.find?_insert, Entries.find?_erase, hne.symm]
  refine step_keeps hindependent (fun _ _ _ _ => rfl) ?_ s
  rintro other text limits rfl s r
  exact hcommand s other r fun hname => h text limits (by rw [hname])

end Session

end DiceNotation
