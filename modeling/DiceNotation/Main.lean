import DiceNotation.CommandLine

/-!
# The program

The command line over the variables of the process, a variable file in the working directory, and a generator seeded
from the system's entropy.
-/

namespace DiceNotation.CommandLine

/-- The variables that settings are read from. -/
def variableNames : List String :=
  ["GURGLE_LIMITS", "GURGLE_DETAIL", "GURGLE_LANGUAGE", "GURGLE_DEBUG"] ++
    Limit.all.map fun l => "GURGLE_LIMITS__" ++ l.name.toUpper

/-- The variables of the process that settings are read from, and others by name. -/
def environment (others : List String) : IO (Entries String) :=
  (variableNames ++ others).filterMapM fun name => do
    return (← IO.getEnv name).map (name, ·)

/-- The text of the variable file, if there is one. -/
def variableFile : IO String :=
  try IO.FS.readFile ".env" catch _ => pure ""

/-- A seed from the system's entropy. -/
def entropy : IO Int := do
  let bytes ← IO.getRandomBytes 16
  return (bytes.foldl (fun n byte => 256 * n + byte.toNat) 0 : Nat)

end DiceNotation.CommandLine

open DiceNotation in
/-- Run the command line on the arguments of the process. -/
def main (arguments : List String) : IO UInt32 := do
  let file ← CommandLine.variableFile
  let session : Session :=
    { environment := ← CommandLine.environment (VariableFile.references file)
      file
      common := ⟨.seeded (Twister.ofSeed (← CommandLine.entropy)), []⟩ }
  let (outcome, _) := CommandLine.run arguments session
  match outcome with
  | .usage => IO.eprintln "Usage: [--debug] roll|check|limits ..."
  | .escaped failure => IO.eprintln failure.message
  | .finished debug _ lines records =>
    if debug then
      for record in records do IO.println record.message
    for line in lines do IO.println (String.ofList line)
  return UInt32.ofNat outcome.exitCode
