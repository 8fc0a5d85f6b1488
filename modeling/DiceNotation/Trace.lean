import DiceNotation.Roll

/-!
# Traces

The written form of an outcome, such as `(4+3+1) + Max(1, 3) + 1 = 12, target is >15, failed`. The points of a sum are
joined by plus signs; those of any other aggregate stand behind its name and are separated by commas. A trace is laid out
with its numbers in full, and it is shown only if each of them can be written.

* `ItemRoll.chars`, `ExprRoll.chars`: the trace of an item and of a row.
* `RollResult.trace`: the trace of a command with its value, which is left out behind a lone number, and its verdict.
* `ExprRoll.shown`, `RollResult.shown`: these traces, if they can be written.
-/

namespace DiceNotation

/-- What stands before the points of a dice term, and what separates them. -/
def Aggregate.frame : Aggregate → List Char × List Char
  | sum => ([], ['+'])
  | avg => (['A', 'v', 'g'], [',', ' '])
  | max => (['M', 'a', 'x'], [',', ' '])
  | min => (['M', 'i', 'n'], [',', ' '])

/-- The trace of a dice term. -/
def DiceRoll.chars (d : DiceRoll) : List Char :=
  let (name, separator) := d.dice.aggregate.frame
  name ++ '(' :: separator.intercalate (d.points.map decimal) ++ [')']

mutual

/-- The trace of an item. -/
def ItemRoll.chars : ItemRoll → List Char
  | .number n => decimal n
  | .dice d => d.chars
  | .group e => '(' :: e.chars ++ [')']
  | .unknown text => text.toList

/-- The trace of a row. -/
def ExprRoll.chars : ExprRoll → List Char
  | .single item _ => item.chars
  | .snoc before op item _ => before.chars ++ ' ' :: op.symbol :: ' ' :: item.chars

end

/-- The trace of a verdict. -/
def Checker.chars (checker : Checker) (success : Bool) (language : Language) : List Char :=
  language.target.toList ++ checker.compare.symbol.toList ++ decimal checker.target ++
    (language.outcome success).toList

/-! ## Outcomes that have no trace -/

/-- Why an outcome has no trace. -/
inductive TraceError where
  | unknownItem (text : String)
  | noDetail
  deriving DecidableEq, Repr

/-- The report of an outcome without a trace. -/
def TraceError.message : TraceError → String
  | unknownItem text => "Cannot render " ++ Text.quoted text
  | noDetail => "Roll result has no detail to render"

mutual

/-- The first item of no known kind in an item's outcome. -/
def ItemRoll.unknown? : ItemRoll → Option String
  | .unknown text => some text
  | .group e => e.unknown?
  | _ => none

/-- The first item of no known kind in a row's outcome. -/
def ExprRoll.unknown? : ExprRoll → Option String
  | .single item _ => item.unknown?
  | .snoc before _ item _ => before.unknown?.or item.unknown?

end

/-- The trace of an item, unless something in it is of no known kind. -/
def ItemRoll.trace (item : ItemRoll) : Except TraceError String :=
  match item.unknown? with
  | some text => .error (.unknownItem text)
  | none => .ok (String.ofList item.chars)

/-- The trace of a row, unless something in it is of no known kind. -/
def ExprRoll.trace (e : ExprRoll) : Except TraceError String :=
  match e.unknown? with
  | some text => .error (.unknownItem text)
  | none => .ok (String.ofList e.chars)

/-! ## Commands -/

namespace RollResult

/-- The verdict, if there is a checker and it was asked. -/
def verdict (r : RollResult) : List Char :=
  match r.checker, r.success with
  | some checker, some success => checker.chars success r.language
  | _, _ => []

/-- The trace behind a row: its value and the verdict. -/
def conclusion (r : RollResult) (e : ExprRoll) : List Char :=
  (if e.isLoneNumber then [] else ' ' :: '=' :: ' ' :: decimal r.value) ++ r.verdict

/-- The trace of a command, whose outcome has to have been kept. -/
def trace (r : RollResult) : Except TraceError String :=
  match r.detail with
  | none => .error .noDetail
  | some e => e.trace.map fun row => row ++ String.ofList (r.conclusion e)

/-- The trace of a command, if the outcome has been kept. -/
def trace? (r : RollResult) : Except TraceError (Option String) :=
  if r.detail.isSome then r.trace.map some else .ok none

/-- The trace of a command, or else its value. -/
def text (r : RollResult) : Except TraceError String :=
  r.trace?.map fun trace => trace.getD (String.ofList (decimal r.value))

end RollResult

/-! ## Traces in writing -/

/-- Why a trace is not shown: there is none, or a number in it has too many digits. -/
inductive ShowError where
  | trace (e : TraceError)
  | digits (e : DigitError)
  deriving DecidableEq, Repr

/-- The report of a trace that is not shown. -/
def ShowError.message : ShowError → String
  | trace e => e.message
  | digits e => e.message

/-- What keeps some numbers from being shown. -/
def unwritten? (ns : List Int) : Option ShowError :=
  if ∀ n ∈ ns, Writable n then none else some (.digits .write)

mutual

/-- The first thing in the trace of an item that cannot be shown. -/
def ItemRoll.fault? : ItemRoll → Option ShowError
  | .number n => unwritten? [n]
  | .dice d => unwritten? d.points
  | .group e => e.fault?
  | .unknown text => some (.trace (.unknownItem text))

/-- The first thing in the trace of a row that cannot be shown. -/
def ExprRoll.fault? : ExprRoll → Option ShowError
  | .single item _ => item.fault?
  | .snoc before _ item _ => before.fault?.or item.fault?

end

/-- The trace of a row, as far as it can be shown. -/
def ExprRoll.shown (e : ExprRoll) : Except ShowError String :=
  match e.fault? with
  | some fault => .error fault
  | none => .ok (String.ofList e.chars)

namespace RollResult

/-- The numbers behind the row in a trace: the value, and the target if there is a verdict. -/
def concluded (r : RollResult) (e : ExprRoll) : List Int :=
  (if e.isLoneNumber then [] else [r.value]) ++
    match r.checker, r.success with
    | some checker, some _ => [checker.target]
    | _, _ => []

/-- The first thing in the trace of a command that cannot be shown. -/
def fault? (r : RollResult) : Option ShowError :=
  match r.detail with
  | none => some (.trace .noDetail)
  | some e => e.fault?.or (unwritten? (r.concluded e))

/-- The trace of a command, if it can be shown. -/
def shown (r : RollResult) : Except ShowError String :=
  match r.fault? with
  | some fault => .error fault
  | none => r.trace.mapError .trace

end RollResult

end DiceNotation
