import DiceNotation.Reading
import DiceNotation.Roll

/-!
# Commands

A command is compiled once, under some limits, and rolled any number of times. Rolling does not look at the limits again.

* `Command.compile`: the command that a text is.
* `Command.roll`, `Command.rollTimes`: one roll and several rolls on one source.
-/

namespace DiceNotation

/-- A text and what it says. -/
structure Command where
  source : String
  reading : Reading
  deriving DecidableEq, Repr

namespace Command

/-- Compile a text under some limits. -/
def compile (L : Limits) (source : String) : Except ReadError Command :=
  (read L source).map fun reading => ⟨source, reading⟩

/-- The expression of a command. -/
def expr (c : Command) : Expr :=
  c.reading.expr

/-- The checker of a command. -/
def checker (c : Command) : Option Checker :=
  c.reading.checker

variable {σ : Type} [Source σ]

/-- Roll a command once. -/
def roll (c : Command) (keepDetail : Bool) (language : Language) : RollM σ RollResult :=
  rollCommand c.expr c.checker keepDetail language

/-- Roll a command some times on one source, up to the first failure: the results before it, the failure, and the source
after it. -/
def rollTimes (c : Command) (keepDetail : Bool) (language : Language) :
    Nat → σ → List RollResult × Option RollError × σ
  | 0, source => ([], none, source)
  | n + 1, source =>
    match c.roll keepDetail language source with
    | (.ok result, source) =>
      let (results, failure, source) := c.rollTimes keepDetail language n source
      (result :: results, failure, source)
    | (.error e, source) => ([], some e, source)

end Command

end DiceNotation
