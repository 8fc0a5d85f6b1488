import DiceNotation.Limits
import DiceNotation.Numeral
import DiceNotation.Text.Quoted

/-!
# What can be wrong with a command

* `SyntaxError`: the text is no sentence of the grammar, at a position and for want of something.
* `LimitError`: the text asks for more than a bound allows.
* `ReadError`: one of these, or a number with more digits than are read or written.
-/

namespace DiceNotation

/-! ## Syntax -/

/-- What the grammar asks for at a position. -/
inductive Expected where
  | item
  | diceSides
  | closing
  | target
  | operatorOrChecker
  | endOfInput
  | named (label : String)
  deriving DecidableEq, Repr

/-- How a message names what is asked for. -/
def Expected.label : Expected → String
  | item => "number, dice or '('"
  | diceSides => "dice sides"
  | closing => "')'"
  | target => "checker target"
  | operatorOrChecker => "operator or checker"
  | endOfInput => "end of input"
  | named label => label

/-- A text that the grammar does not admit. A position below zero counts from the text's end. -/
inductive SyntaxError where
  | blank (source : String)
  | unexpected (source : String) (position : Int) (expected : Expected)
  deriving DecidableEq, Repr

namespace SyntaxError

/-- The text. -/
def source : SyntaxError → String
  | blank source => source
  | unexpected source _ _ => source

/-- The offset at which reading stopped. -/
def position : SyntaxError → Int
  | blank _ => 0
  | unexpected _ position _ => position

/-- What was asked for there. -/
def expected : SyntaxError → String
  | blank _ => "expression"
  | unexpected _ _ expected => expected.label

/-- The character at a position, if there is one. -/
def charAt? (source : String) (position : Int) : Option Char :=
  let cs := source.toList
  let offset := if position < 0 then position + cs.length else position
  if offset < 0 then none else cs[offset.toNat]?

/-- What stands at a position, as a message shows it. -/
def found (source : String) (position : Int) : String :=
  match charAt? source position with
  | some c => Text.quoted (String.singleton c)
  | none => "end of input"

/-- The error at a position, unless the position counts back beyond the start of the text. -/
def at? (source : String) (position : Int) (expected : Expected) : Option SyntaxError :=
  if position < -source.length then none else some (unexpected source position expected)

/-- The report of a syntax error. -/
def message : SyntaxError → String
  | blank _ => "Dice expression cannot be empty"
  | unexpected source position expected =>
    "Invalid dice syntax at position " ++ toString position ++ ": expected " ++ expected.label ++ ", found " ++
      found source position

/-- The text, and below it a caret at the offset of the error. -/
def pointer (e : SyntaxError) : String :=
  e.source ++ "\n" ++ String.ofList (List.replicate e.position.toNat ' ') ++ "^"

end SyntaxError

/-! ## Limits -/

/-- A bound that is exceeded: the bound, and the value that exceeds it where a message shows it. -/
inductive LimitError where
  | itemCount (bound : Nat)
  | sides (sides : Int) (bound : Nat)
  | rolls (total : Nat) (bound : Nat)
  | number (value : Int) (bound : Nat)
  | depth (bound : Nat)
  deriving DecidableEq, Repr

namespace LimitError

/-- Which bound is exceeded. -/
def limit : LimitError → Limit
  | itemCount _ => .itemCount
  | sides _ _ => .sides
  | rolls _ _ => .rolls
  | number _ _ => .number
  | depth _ => .depth

/-- The report of an exceeded bound. -/
def message : LimitError → String
  | .itemCount bound => "Item count exceeds limit of " ++ toString bound
  | .sides n bound => "Dice sides " ++ toString n ++ " exceeds limit of " ++ toString bound
  | .rolls total bound => "Total roll times " ++ toString total ++ " exceeds limit of " ++ toString bound
  | .number value bound => "Number " ++ toString value ++ " exceeds limit of " ++ toString bound
  | .depth bound => "Parentheses nested deeper than " ++ toString bound

end LimitError

/-! ## All together -/

/-- Why a command cannot be read. -/
inductive ReadError where
  | syntactic (e : SyntaxError)
  | overLimit (e : LimitError)
  | digits (e : DigitError)
  deriving DecidableEq, Repr

/-- The report of a reading error. -/
def ReadError.message : ReadError → String
  | syntactic e => e.message
  | overLimit e => e.message
  | digits e => e.message

end DiceNotation
