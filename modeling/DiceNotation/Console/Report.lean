import DiceNotation.Command
import DiceNotation.Console.Markup
import DiceNotation.Console.Screen
import DiceNotation.Console.Table
import DiceNotation.Trace

/-!
# Reports on the console

What is printed about an error, a roll, several rolls, a compiled command and the limits, as the lines on the screen.

* `Report.readError`: the message, and for a syntax error the text with a caret below it.
* `Report.roll`, `Report.rolls`: the trace of one roll, and a table of several.
* `Report.summary`: what a command contains. Its dice are written so that they can be read again.
-/

namespace DiceNotation.Report

/-- The lines of an error message. -/
def error (message : String) : List (List Char) :=
  Screen.print ("Error: ".toList ++ Markup.shown message.toList)

/-- The lines of a reading error. Below the message of a syntax error stands the text, unless it is empty, and a caret
at the offset of the error. -/
def readError (e : ReadError) : List (List Char) :=
  error e.message ++
    match e with
    | .syntactic e => if e.source = "" then [] else Screen.printText e.pointer
    | _ => []

/-! ## Rolls -/

/-- The word for a verdict. -/
def verdict : Option Bool → List Char
  | none => []
  | some true => "success".toList
  | some false => "failed".toList

/-- The lines of one roll: its trace if there is one, and else its value and verdict. -/
def roll (r : RollResult) : Except TraceError (List (List Char)) := do
  match ← r.trace? with
  | some trace => return Screen.printText trace
  | none =>
    let word := if r.success.isSome then ' ' :: verdict r.success else []
    return [decimal r.value ++ word]

/-- The cells of one row in a table of rolls. -/
def cells (showVerdict showDetail : Bool) (index : Nat) (r : RollResult) : Except TraceError (List (List Char)) := do
  let trace ← r.trace?
  return [(toString index).toList, decimal r.value] ++ (if showVerdict then [verdict r.success] else []) ++
    (if showDetail then [(trace.getD "").toList] else [])

/-- The lines of several rolls: a table, and below it how many succeeded if any has a verdict. -/
def rolls (results : List RollResult) : Except TraceError (List (List Char)) := do
  let showVerdict := results.any fun r => r.success.isSome
  let showDetail := results.any fun r => r.detail.isSome
  let rows ← results.zipIdx.mapM fun (r, i) => cells showVerdict showDetail (i + 1) r
  let columns : List Table.Column := [⟨"#".toList, true⟩, ⟨"Value".toList, true⟩] ++
    (if showVerdict then [⟨"Result".toList, false⟩] else []) ++
    (if showDetail then [⟨"Detail".toList, false⟩] else [])
  let successes := results.countP fun r => r.success = some true
  let count := if showVerdict then [(toString successes ++ "/" ++ toString results.length ++ " succeeded").toList] else []
  return (⟨"Rolls".toList, columns, rows⟩ : Table).lines ++ count

/-! ## Commands -/

/-- A dice term in writing; the sum needs no word. -/
def dice (d : Dice) : List Char :=
  decimal d.count ++ 'd' :: decimal d.sides ++ (if d.aggregate = .sum then [] else d.aggregate.word.toList)

/-- A checker in writing. -/
def checker (c : Checker) : List Char :=
  c.compare.symbol.toList ++ decimal c.target

/-- The lines about a compiled command. -/
def summary (c : Command) : List (List Char) :=
  Screen.print ('\'' :: c.source.toList ++ "' is valid".toList) ++
    ["Items: ".toList ++ Nat.toDigits 10 c.expr.itemCount] ++
    (match c.expr.dice with
      | [] => []
      | terms => ["Dice: ".toList ++ [',', ' '].intercalate (terms.map dice)]) ++
    (match c.checker with
      | none => []
      | some target => ["Checker: ".toList ++ checker target])

/-- The lines about the limits. -/
def limits (L : Limits) : List (List Char) :=
  Limit.all.map fun l => l.name.toList ++ ": ".toList ++ Nat.toDigits 10 (L.get l)

end DiceNotation.Report
