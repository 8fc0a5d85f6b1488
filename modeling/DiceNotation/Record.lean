import DiceNotation.Command

/-!
# Records

What is noted while commands are compiled and rolled: a record for each text that was read, for each command compiled
and for each roll made. Failures leave no record. What has no record fails: a reading whose total cannot be written
(`Reading.noted`), and a roll whose value cannot be (`rollCommand`).
-/

namespace DiceNotation

/-- One note. -/
inductive Record where
  | parsed (source : String) (reading : Reading)
  | compiled (source : String)
  | rolled (value : Int) (success : Option Bool)
  deriving DecidableEq, Repr

/-- The name of a comparison in a record. -/
def Compare.name : Compare → String
  | gt => "GT"
  | ge => "GTE"
  | lt => "LT"
  | le => "LTE"
  | eq => "EQ"

/-- A checker in a record. -/
def Checker.noted : Option Checker → String
  | none => "None"
  | some c =>
    "Checker(compare=<Compare." ++ c.compare.name ++ ": '" ++ c.compare.symbol ++ "'>, target=" ++ toString c.target ++ ")"

/-- A verdict in a record. -/
def notedVerdict : Option Bool → String
  | none => "None"
  | some true => "True"
  | some false => "False"

/-- The text of a record. -/
def Record.message : Record → String
  | parsed source reading =>
    "Parsed '" ++ source ++ "': " ++ toString reading.items ++ " items, " ++ toString reading.rolls ++
      " roll times, checker=" ++ Checker.noted reading.checker
  | compiled source => "Compiled '" ++ source ++ "'"
  | rolled value success => "Rolled " ++ toString value ++ " (success=" ++ notedVerdict success ++ ")"

/-- What is noted of a command that was compiled. -/
def Command.records (c : Command) : List Record :=
  [.parsed c.source c.reading, .compiled c.source]

/-- What is noted of a roll that was made. -/
def RollResult.record (r : RollResult) : Record :=
  .rolled r.value r.success

end DiceNotation
