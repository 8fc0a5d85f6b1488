import DiceNotation.Json.Reader
import DiceNotation.Language
import DiceNotation.Settings.Bound
import DiceNotation.Settings.VariableFile

/-!
# Settings

The settings come from variables whose names start with `GURGLE_`, in letters of either case. Two layers of variables
lie over each other, those of the environment over those of a variable file, and over each single bound as well. The
bounds may be given together as a JSON object, and one by one under a longer name, which wins.

* `Layer.ofVariables`: what one layer says.
* `Settings.ofLayer`: the settings that a layer gives, or every refusal.
* `Settings.load`: the settings of an environment and a variable file.
-/

namespace DiceNotation

/-- What a user can set. -/
structure Settings where
  limits : Limits := .standard
  /-- Whether the outcome of a roll is kept. -/
  detail : Bool := true
  /-- The language of verdicts. -/
  language : Language := .en
  /-- Whether a command line shows what is noted while it runs. -/
  debug : Bool := false
  deriving DecidableEq

/-- Why settings cannot be loaded: the bounds are given together in a text that is no JSON, or values are refused. -/
inductive LoadError where
  | malformed
  | refused (faults : List Fault)
  deriving DecidableEq, Repr

/-! ## Layers -/

/-- The limits that a layer gives: bounds by name, or something that holds none. -/
inductive GivenLimits where
  | members (members : Entries Json)
  | other

/-- What one layer of variables says. -/
structure Layer where
  limits : Option GivenLimits := none
  detail : Option String := none
  language : Option String := none
  debug : Option String := none

namespace Layer

/-- The name of a variable, or the name of a bound, with the case of its letters ignored. -/
def lower (name : String) : String :=
  String.ofList (name.toList.map Char.toLower)

/-- The variables by lower-case name; of two that differ in case only, the later gives the value. -/
def normalize (vars : Entries (Option String)) : Entries (Option String) :=
  vars.foldl (fun acc (name, value) => acc.insert (lower name) value) []

/-- The parts of a name between double underscores, read from the left. -/
def splitName (part : List Char) : List Char → List (List Char)
  | '_' :: '_' :: rest => part.reverse :: splitName [] rest
  | c :: rest => splitName (c :: part) rest
  | [] => [part.reverse]

/-- Add a bound given under a longer name. A name that is longer still makes the bound an object, unless the bound has a
value already. -/
def addNested (members : Entries Json) (parts : List (List Char)) (value : Option String) : Entries Json :=
  match parts with
  | [] => members
  | [name] => members.insert (String.ofList name) ((value.map Json.string).getD .null)
  | name :: _ =>
    let name := String.ofList name
    if (members.find? name).isSome then members else members.insert name (.object [])

/-- The bounds given one by one. -/
def nested (vars : Entries (Option String)) : Entries Json :=
  let start := "gurgle_limits__".toList
  vars.foldl (fun members (name, value) =>
      if start.isPrefixOf name.toList then addNested members (splitName [] (name.toList.drop start.length)) value
      else members)
    []

/-- Bounds by name, where the case of the name's letters does not count. -/
def matchNames (members : Entries Json) : Entries Json :=
  members.foldl (fun acc (name, value) =>
      let known := Limit.all.any fun l => l.name == lower name
      acc.insert (if known then lower name else name) value)
    []

/-- The limits that normalized variables give, if they give any. -/
def limitsOf (vars : Entries (Option String)) : Except LoadError (Option GivenLimits) :=
  match (vars.find? "gurgle_limits").join with
  | none =>
    match nested vars with
    | [] => .ok none
    | members => .ok (some (.members (matchNames members)))
  | some text =>
    match Json.read? text with
    | none => .error .malformed
    | some (.object members) => .ok (some (.members (matchNames (Entries.merge members (nested vars)))))
    | some .null => .ok none
    | some _ => .ok (some .other)

/-- What variables say. -/
def ofVariables (vars : Entries (Option String)) : Except LoadError Layer := do
  let vars := normalize vars
  let limits ← limitsOf vars
  return {
    limits
    detail := (vars.find? "gurgle_detail").join
    language := (vars.find? "gurgle_language").join
    debug := (vars.find? "gurgle_debug").join }

/-- A layer of limits over another: bound by bound if both give bounds. -/
def aboveLimits : Option GivenLimits → Option GivenLimits → Option GivenLimits
  | some (.members upper), some (.members lower) => some (.members (Entries.merge lower upper))
  | some upper, _ => some upper
  | none, lower => lower

/-- A layer over another. -/
def above (upper lower : Layer) : Layer where
  limits := aboveLimits upper.limits lower.limits
  detail := upper.detail.or lower.detail
  language := upper.language.or lower.language
  debug := upper.debug.or lower.debug

end Layer

/-! ## Values -/

/-- The truth value that a word spells, in letters of either case. -/
def boolOfWord (s : String) : Except Refusal Bool :=
  let word := Layer.lower s
  if ["1", "true", "t", "yes", "y", "on"].contains word then .ok true
  else if ["0", "false", "f", "no", "n", "off"].contains word then .ok false
  else .error .boolParsing

/-- The language that a word spells. -/
def languageOfWord (s : String) : Except Refusal Language :=
  match Language.ofCode? s with
  | some language => .ok language
  | none => .error .enum

/-- The limits that a layer's limits come to. -/
def GivenLimits.toLimits : GivenLimits → Except (List Fault) Limits
  | .members bounds =>
    (Limits.ofMembers bounds).mapError (·.map fun fault => { fault with path := "limits" :: fault.path })
  | .other => .error [⟨["limits"], .modelType⟩]

/-- One setting of a layer, with its default. -/
def settingOf {α : Type} (name : String) (read : String → Except Refusal α) (default : α) (value : Option String) :
    Except (List Fault) α :=
  match value with
  | none => .ok default
  | some s => (read s).mapError fun refusal => [⟨[name], refusal⟩]

/-- The faults of a setting. -/
def faultsOf {α : Type} : Except (List Fault) α → List Fault
  | .ok _ => []
  | .error faults => faults

/-- The settings that a layer gives, or all that is refused in it. -/
def Settings.ofLayer (layer : Layer) : Except LoadError Settings :=
  let limits := (layer.limits.map GivenLimits.toLimits).getD (.ok .standard)
  let detail := settingOf "detail" boolOfWord true layer.detail
  let language := settingOf "language" languageOfWord .en layer.language
  let debug := settingOf "debug" boolOfWord false layer.debug
  match limits, detail, language, debug with
  | .ok limits, .ok detail, .ok language, .ok debug => .ok { limits, detail, language, debug }
  | _, _, _, _ => .error (.refused (faultsOf limits ++ faultsOf detail ++ faultsOf language ++ faultsOf debug))

/-- The settings of an environment and of the text of a variable file. -/
def Settings.load (environment : Entries String) (file : String) : Except LoadError Settings := do
  let upper ← Layer.ofVariables (environment.map fun (name, value) => (name, some value))
  let lower ← Layer.ofVariables (VariableFile.read environment file)
  Settings.ofLayer (upper.above lower)

end DiceNotation
