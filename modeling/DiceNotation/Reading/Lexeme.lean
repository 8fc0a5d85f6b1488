import DiceNotation.Dice
import DiceNotation.Numeral

/-!
# The head of an item

What the next item of an expression starts with, decided by looking ahead over characters alone: numerals are not yet
converted, and no bound is consulted.

* `Lexeme.scan`: the head and what follows it; if there is none, the place where one is missing.
-/

namespace DiceNotation

/-- The head of an item, or what is missing in its place. -/
inductive Lexeme where
  /-- An opening parenthesis. -/
  | opening
  /-- A dice term. -/
  | dice (count sides : Numeral) (aggregate : Aggregate)
  /-- A numeral and a `d` without the sides after it. -/
  | noSides
  /-- A number. -/
  | number (n : Numeral)
  /-- No item. -/
  | missing
  deriving DecidableEq, Repr

namespace Lexeme

/-- Whether a character joins the count of a dice term to its sides. -/
def isDiceLetter (c : Char) : Bool :=
  c = 'd' || c = 'D'

/-- A dice term or a number, by what follows the first numeral. -/
def scanAfter (count : Numeral) (rest : List Char) : Lexeme × List Char :=
  match Text.skipGap rest with
  | c :: after =>
    if isDiceLetter c then
      match Numeral.scan? (Text.skipGap after) with
      | some (sides, rest) =>
        let (aggregate, rest) := Aggregate.scan rest
        (.dice count sides aggregate, rest)
      | none => (.noSides, Text.skipGap after)
    else (.number count, rest)
  | [] => (.number count, rest)

/-- The head of the item that a text starts with, spaces and tabs aside, and what follows it. A dice term is preferred to
the number that it starts with. -/
def scan (cs : List Char) : Lexeme × List Char :=
  match Text.skipGap cs with
  | '(' :: rest => (.opening, rest)
  | cs =>
    match Numeral.scan? cs with
    | some (count, rest) => scanAfter count rest
    | none => (.missing, cs)

end Lexeme

end DiceNotation
