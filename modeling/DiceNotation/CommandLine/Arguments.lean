import DiceNotation.Language
import DiceNotation.Numeral.Loose

/-!
# Arguments

The arguments of the command line name a task, with options before the task's name that hold for all tasks and with
options after it that belong to the task. An option whose name starts with two hyphens may have its value after an
equals sign; one of a single letter may have it attached. Of an option given twice the last value counts, and two
hyphens alone end the options.

* `Arguments.ofWords`: the debug option, the task's name and the task's own arguments.
* `Task.ofWords`: the task that a name and arguments ask for.
-/

namespace DiceNotation.CommandLine

/-! ## Values -/

/-- The whole number that a word is. -/
def integer? (s : String) : Option Int :=
  (Numeral.readLoose s.toList).toOption

/-- How often to roll: once at least. -/
def times? (s : String) : Option Nat := do
  let n ← integer? s
  if 1 ≤ n then some n.toNat else none

/-! ## Before the task -/

/-- The arguments, split at the name of the task. -/
structure Arguments where
  debug : Bool
  task : String
  words : List String
  deriving DecidableEq, Repr

/-- Whether a word is an option: it starts with a hyphen and is more than that. -/
def isOption (word : String) : Bool :=
  match word.toList with
  | '-' :: _ :: _ => true
  | _ => false

/-- Split the arguments at the name of the task; `none` if an option is unknown or there is no task. -/
def Arguments.ofWords (debug : Bool) : List String → Option Arguments
  | [] => none
  | "--debug" :: rest => Arguments.ofWords true rest
  | "--" :: rest =>
    match rest with
    | [] => none
    | task :: words => some ⟨debug, task, words⟩
  | word :: words => if isOption word then none else some ⟨debug, word, words⟩

/-! ## Tasks -/

/-- The name of a task. -/
inductive TaskName where
  | roll
  | check
  | limits
  deriving DecidableEq, Repr

/-- The task with a name. -/
def TaskName.ofWord? : String → Option TaskName
  | "roll" => some roll
  | "check" => some check
  | "limits" => some limits
  | _ => none

/-- What a user asks for. -/
inductive Task where
  | roll (expression : String) (times : Nat) (seed : Option Int) (noDetail : Bool) (language : Option Language)
  | check (expression : String)
  | limits
  deriving DecidableEq, Repr

/-- The options and the other words of a roll, as they are read. -/
structure RollWords where
  times : Option String := none
  seed : Option String := none
  language : Option String := none
  noDetail : Bool := false
  words : List String := []
  deriving DecidableEq, Repr

/-- An option of a roll that has a value. -/
inductive RollOption where
  | times
  | seed
  | language
  deriving DecidableEq, Repr

/-- What a word says that starts with a hyphen: that no detail is wanted, or an option with its value, which may stand in
the next word. -/
inductive RollWord where
  | noDetail
  | option (option : RollOption) (value : Option String)
  deriving DecidableEq, Repr

/-- The option that a word starts, with its value if the word holds it. -/
def RollWord.ofWord? (word : String) : Option RollWord :=
  match word.toList with
  | '-' :: '-' :: _ =>
    let (name, value) := word.toList.span (· != '=')
    let value := match value with
      | _ :: value => some (String.ofList value)
      | [] => none
    match String.ofList name, value with
    | "--times", value => some (option .times value)
    | "--seed", value => some (option .seed value)
    | "--lang", value => some (option .language value)
    | "--no-detail", none => some noDetail
    | _, _ => none
  | ['-', 'n'] => some (option .times none)
  | '-' :: 'n' :: value => some (option .times (some (String.ofList value)))
  | _ => none

/-- Give an option a value, over the one that it may have. -/
def RollWords.set (found : RollWords) (value : String) : RollOption → RollWords
  | .times => { found with times := some value }
  | .seed => { found with seed := some value }
  | .language => { found with language := some value }

/-- Read the words of a roll from the left, over what has been read. An option without a value takes the next word,
whatever it is. -/
def RollWords.read (found : RollWords) : List String → Option RollWords
  | [] => some found
  | "--" :: rest => some { found with words := found.words ++ rest }
  | word :: rest =>
    if isOption word then
      match RollWord.ofWord? word with
      | none => none
      | some .noDetail => RollWords.read { found with noDetail := true } rest
      | some (.option o (some value)) => RollWords.read (found.set value o) rest
      | some (.option o none) =>
        match rest with
        | [] => none
        | value :: rest => RollWords.read (found.set value o) rest
    else RollWords.read { found with words := found.words ++ [word] } rest

/-- A value that may be missing, converted; `none` if it is there and cannot be. -/
def convert? {α : Type} (read? : String → Option α) : Option String → Option (Option α)
  | none => some none
  | some value => (read? value).map some

/-- The roll that some words ask for. -/
def RollWords.toTask? (found : RollWords) : Option Task := do
  let times ← convert? times? found.times
  let seed ← convert? integer? found.seed
  let language ← convert? Language.ofCode? found.language
  match found.words with
  | [expression] => some (.roll expression (times.getD 1) seed found.noDetail language)
  | _ => none

/-- The words of a task without options. -/
def plainWords? : List String → Option (List String)
  | [] => some []
  | "--" :: rest => some rest
  | word :: rest => if isOption word then none else (plainWords? rest).map (word :: ·)

/-- The task that a name and words ask for; `none` if they ask for none. -/
def Task.ofWords? (name : TaskName) (words : List String) : Option Task :=
  match name with
  | .roll => (RollWords.read {} words).bind RollWords.toTask?
  | .check =>
    match plainWords? words with
    | some [expression] => some (.check expression)
    | _ => none
  | .limits =>
    match plainWords? words with
    | some [] => some .limits
    | _ => none

end DiceNotation.CommandLine
