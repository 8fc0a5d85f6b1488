import DiceNotation.Command
import DiceNotation.Settings
import DiceNotation.Source.Supply
import DiceNotation.Trace

/-!
# Sessions

A session holds an environment of variables, the settings loaded from it, and commands and sources under names. The
settings are loaded when they are first needed and kept until they are dropped; a load that fails keeps nothing, so
that the next need of them loads again. A compiled command is not touched by later changes of the settings.

* `Session.settings`: the settings, loaded at most once.
* `Session.compile`, `Session.roll`: a command under the settings' limits, and a roll with the settings' defaults.
* `Session.step`: one step of a session and its answer.
-/

namespace DiceNotation

/-- Why a step of a session fails. -/
inductive Failure where
  | read (e : ReadError)
  | roll (e : RollError)
  | settings (e : LoadError)
  | trace (e : TraceError)
  | word (e : UnknownWord)
  /-- No command or source has the name. -/
  | missing (name : String)
  deriving DecidableEq, Repr

/-- The report of settings that cannot be loaded. -/
def LoadError.message : LoadError → String
  | malformed => "The limits are no JSON text"
  | refused faults =>
    ", ".intercalate (faults.map fun fault => ".".intercalate fault.path ++ ": " ++ fault.refusal.name)

/-- The report of a failure. A missing name is its own report. -/
def Failure.message : Failure → String
  | read e => e.message
  | roll e => e.message
  | settings e => e.message
  | trace e => e.message
  | word e => e.message
  | missing name => Text.quoted name

/-- The state of a session. -/
structure Session where
  environment : Entries String := []
  /-- The text of the variable file. -/
  file : String := ""
  cached : Option Settings := none
  commands : Entries Command := []
  sources : Entries (Recorded Supply) := []
  /-- The source of the rolls that name none. -/
  common : Recorded Supply := ⟨.seeded (Twister.ofSeed 0), []⟩

/-- A part of a session that may fail; what it changed before stays changed. -/
abbrev SessionM := Attempt Failure Session

namespace Session

/-- An outcome as a part of a session, its error made a failure. -/
def ofExcept {ε α : Type} (failure : ε → Failure) : Except ε α → SessionM α
  | .ok a => pure a
  | .error e => throw (failure e)

/-! ## Settings -/

/-- Load the settings, without a look at the ones kept. -/
def load : SessionM Settings := do
  let s ← get
  ofExcept .settings (Settings.load s.environment s.file)

/-- The settings that are kept, or else those loaded now, which are then kept. -/
def settings : SessionM Settings := do
  match (← get).cached with
  | some settings => pure settings
  | none =>
    let settings ← load
    modify fun s => { s with cached := some settings }
    pure settings

/-! ## Commands -/

/-- Compile a text under the given limits, or else under those of the settings. -/
def compile (limits : Option Limits) (text : String) : SessionM Command := do
  match limits with
  | some limits => ofExcept .read (Command.compile limits text)
  | none => ofExcept .read (Command.compile (← settings).limits text)

/-- Roll a command on a source. The settings are loaded even if neither option is taken from them. -/
def roll {σ : Type} [Source σ] (c : Command) (keepDetail : Option Bool) (language : Option Language) (source : σ) :
    StateM Session (Except Failure RollResult × σ) := do
  match ← settings.run with
  | .error e => pure (.error e, source)
  | .ok settings =>
    let (outcome, source) := c.roll (keepDetail.getD settings.detail) (language.getD settings.language) source
    pure (outcome.mapError .roll, source)

/-- Roll a command some times on one source, up to the first failure: the results before it, the failure, and the source
after it. -/
def rollTimes {σ : Type} [Source σ] (c : Command) (keepDetail : Option Bool) (language : Option Language) :
    Nat → σ → StateM Session (List RollResult × Option Failure × σ)
  | 0, source => pure ([], none, source)
  | n + 1, source => do
    match ← roll c keepDetail language source with
    | (.ok result, source) =>
      let (results, failure, source) ← rollTimes c keepDetail language n source
      pure (result :: results, failure, source)
    | (.error e, source) => pure ([], some e, source)

/-! ## Named commands and sources -/

/-- The command with a name. -/
def command (name : String) : SessionM Command := do
  match (← get).commands.find? name with
  | some c => pure c
  | none => throw (.missing name)

/-- The source with a name, or the common one. -/
def source : Option String → SessionM (Recorded Supply)
  | none => return (← get).common
  | some name => do
    match (← get).sources.find? name with
    | some source => pure source
    | none => throw (.missing name)

/-- Put a source in the place of the one with a name, or of the common one. -/
def putSource (name : Option String) (source : Recorded Supply) : SessionM Unit :=
  modify fun s => match name with
    | none => { s with common := source }
    | some name => { s with sources := s.sources.insert name source }

/-- Roll a command on a source of the session. -/
def rollOn (name : Option String) (source : Recorded Supply) (c : Command) (keepDetail : Option Bool)
    (language : Option Language) : SessionM RollResult := do
  let (outcome, source) ← roll c keepDetail language source
  putSource name source
  ofExcept id outcome

/-! ## Steps -/

/-- One step of a session. -/
inductive Step where
  /-- Set variables, and unset those without a value. -/
  | environment (changes : Entries (Option String))
  /-- Drop the settings that are kept. -/
  | clear
  | settings
  /-- Load settings without keeping them. -/
  | fresh
  | source (name : String) (supply : Supply)
  | sourceState (name : String)
  | compile (name : String) (text : String) (limits : Option (Entries Json))
  | describe (name : String)
  | equal (first second : String)
  | roll (name : String) (source : Option String) (keepDetail : Option Bool) (language : Option String)
  | rollText (text : String) (source : Option String)
  | rollOnce (text : String) (source : Option String)

/-- What a step answers. -/
inductive Answer where
  | done
  | settings (settings : Settings)
  | sourceState (source : Recorded Supply)
  | compiled (command : Command)
  | command (command : Command)
  | equal (same : Bool)
  | result (result : RollResult)
  | value (value : Int)

/-- Set a variable, or unset it. -/
def setVariable (environment : Entries String) : String × Option String → Entries String
  | (name, some value) => environment.insert name value
  | (name, none) => environment.erase name

/-- One step of a session. -/
def step : Step → SessionM Answer
  | .environment changes => do
    modify fun s => { s with environment := changes.foldl setVariable s.environment }
    pure .done
  | .clear => do
    modify fun s => { s with cached := none }
    pure .done
  | .settings => return .settings (← settings)
  | .fresh => return .settings (← load)
  | .source name supply => do
    modify fun s => { s with sources := s.sources.insert name ⟨supply, []⟩ }
    pure .done
  | .sourceState name => return .sourceState (← source (some name))
  | .compile name text limits => do
    modify fun s => { s with commands := s.commands.erase name }
    let limits ← limits.mapM fun members => ofExcept (.settings ∘ .refused) (Limits.ofMembers members)
    let c ← compile limits text
    modify fun s => { s with commands := s.commands.insert name c }
    pure (.compiled c)
  | .describe name => return .command (← command name)
  | .equal first second => do
    let first ← command first
    let second ← command second
    pure (.equal (first = second))
  | .roll name sourceName keepDetail language => do
    let supply ← source sourceName
    let c ← command name
    let language ← language.mapM fun code => ofExcept .word (Vocabulary.language.lookUp Language.ofCode? code)
    return .result (← rollOn sourceName supply c keepDetail language)
  | .rollText text sourceName => do
    let supply ← source sourceName
    let c ← compile none text
    return .result (← rollOn sourceName supply c none none)
  | .rollOnce text sourceName => do
    let supply ← source sourceName
    let c ← compile none text
    return .value (← rollOn sourceName supply c (some false) none).value

/-- The steps of a session one after another. A step that fails answers its failure, and the session goes on. -/
def run (steps : List Step) : StateM Session (List (Except Failure Answer)) :=
  steps.mapM fun s => (step s).run

end Session

end DiceNotation
