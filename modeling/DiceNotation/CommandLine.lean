import DiceNotation.CommandLine.Arguments
import DiceNotation.Console.Report
import DiceNotation.Record
import DiceNotation.Session

/-!
# The command line

A run of the command line carries out one task in a session: it rolls an expression, checks one, or lists the limits.
The settings are loaded before the task's own arguments are read, unless the debug option makes that unnecessary.

* `CommandLine.run`: what a run comes to.
-/

namespace DiceNotation.CommandLine

/-- What a run comes to. -/
inductive Outcome where
  /-- The arguments ask for nothing that there is. -/
  | usage
  /-- A failure that is not the user's and that no report is made of. -/
  | escaped (failure : Failure)
  /-- The task is done, or was found to be in error. -/
  | finished (debug succeeded : Bool) (lines : List (List Char)) (records : List Record)

/-- The exit code of a run. -/
def Outcome.exitCode : Outcome → Nat
  | usage => 2
  | escaped _ => 1
  | finished _ succeeded _ _ => if succeeded then 0 else 1

/-- The report of a failure that the user's expression is to blame for. -/
def report? : Failure → Option (List (List Char))
  | .read (.syntactic e) => some (Report.readError (.syntactic e))
  | .read (.overLimit e) => some (Report.readError (.overLimit e))
  | .roll (.noSides sides) => some (Report.error (RollError.noSides sides).message)
  | .roll (.unknownItem text) => some (Report.error (RollError.unknownItem text).message)
  | _ => none

/-- The outcome of a failure, with what was noted before it. -/
def fail (debug : Bool) (failure : Failure) (records : List Record) : Outcome :=
  match report? failure with
  | some lines => .finished debug false lines records
  | none => .escaped failure

/-- The outcome of a task whose lines have been made. -/
def finish (debug : Bool) (lines : Except TraceError (List (List Char))) (records : List Record) : Outcome :=
  match lines with
  | .ok lines => .finished debug true lines records
  | .error e => .escaped (.trace e)

/-- What keeps the traces of some results from being shown. -/
def unshown? (results : List RollResult) : Option Failure :=
  (results.filter fun r => r.detail.isSome).findSome? fun r => r.fault?.map fun
    | .trace e => .trace e
    | .digits _ => .roll .unwritable

/-- The source that a seed gives, or the common one. -/
def sourceOf (seed : Option Int) (s : Session) : Recorded Supply :=
  match seed with
  | some seed => ⟨.seeded (Twister.ofSeed seed), []⟩
  | none => s.common

/-- Carry out a task. -/
def perform (debug : Bool) : Task → StateM Session Outcome
  | .roll expression times seed noDetail language => do
    match ← (Session.compile none expression).run with
    | .error failure => return fail debug failure []
    | .ok command =>
      let keepDetail := if noDetail then some false else none
      let (results, failure, _) ← Session.rollTimes command keepDetail language times (sourceOf seed (← get))
      let records := command.records ++ results.map RollResult.record
      match failure.or (unshown? results), results with
      | some failure, _ => return fail debug failure records
      | none, [result] => return finish debug (Report.roll result) records
      | none, _ => return finish debug (Report.rolls results) records
  | .check expression => do
    match ← (Session.compile none expression).run with
    | .error failure => return fail debug failure []
    | .ok command => return .finished debug true (Report.summary command) command.records
  | .limits => do
    match ← Session.settings.run with
    | .error failure => return fail debug failure []
    | .ok settings => return .finished debug true (Report.limits settings.limits) []

/-- Whether records are shown, as the debug option or else the settings say. -/
def debugMode (debug : Bool) : SessionM Bool :=
  if debug then pure true else return (← Session.settings).debug

/-- A run with some arguments. -/
def run (words : List String) : StateM Session Outcome := do
  match Arguments.ofWords false words with
  | none => return .usage
  | some arguments =>
    match TaskName.ofWord? arguments.task with
    | none => return .usage
    | some name =>
      match ← (debugMode arguments.debug).run with
      | .error failure => return fail arguments.debug failure []
      | .ok debug =>
        match Task.ofWords? name arguments.words with
        | none => return .usage
        | some task => perform debug task

end DiceNotation.CommandLine
