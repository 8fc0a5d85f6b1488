import DiceNotation.Checker
import DiceNotation.Expr
import DiceNotation.Reading.Error
import DiceNotation.Reading.Lexeme

/-!
# Reading commands

A command is an expression and, after it, an optional checker:

    command  := expr [checker]
    expr     := item (operator item)*
    item     := "(" expr ")" | dice | number
    dice     := number "d" number ["sum" | "avg" | "max" | "min"]
    operator := "+" | "-" | "*" | "x"
    checker  := (">=" | "<=" | ">" | "<" | "=" | "==") number
    number   := ["-"] digit+

Spaces and tabs may stand between the tokens. Letters count in either case, and only ASCII digits are digits.

The text is read once from left to right. What has been counted so far travels with the text that is left, so that a
bound is reported as exceeded as soon as it is, whatever comes after.

* `Cursor.readExpr`: an expression, in the middle of a text and of the counts.
* `read`: a whole command, with the counts at its end, which are noted.
-/

namespace DiceNotation

/-! ## Counts -/

/-- The text that is left to read, the items and rolled dice counted so far, and the groups that are open. -/
structure Cursor where
  rest : List Char
  items : Nat
  rolls : Nat
  depth : Nat
  deriving DecidableEq, Repr

/-- Why reading stops: something else was expected before the rest of the text, a bound is exceeded, or a number has too
many digits. -/
inductive Stop where
  | unexpected (expected : Expected) (rest : List Char)
  | overLimit (e : LimitError)
  | digits (e : DigitError)
  deriving DecidableEq, Repr

/-- The number that a numeral stands for, where a command has it. -/
def Numeral.convert (n : Numeral) : Except Stop Int :=
  match n.read with
  | .ok value => .ok value
  | .error digits => .error (.digits (.read digits))

/-- Refuse a number item or a target whose magnitude is beyond the bound. -/
def Limits.checkNumber (L : Limits) (n : Int) : Except Stop Unit :=
  if n.natAbs ≤ L.number then .ok () else .error (.overLimit (.number n L.number))

namespace Cursor

variable (L : Limits)

/-- Go on with another rest of the text. -/
def moveTo (c : Cursor) (rest : List Char) : Cursor :=
  { c with rest }

/-- Count one more number or dice term. -/
def countItem (c : Cursor) : Except Stop Cursor :=
  if c.items + 1 ≤ L.itemCount then .ok { c with items := c.items + 1 } else .error (.overLimit (.itemCount L.itemCount))

/-- Count the dice of one more dice term. The report of too many needs their total in writing. -/
def countRolls (d : Dice) (c : Cursor) : Except Stop Cursor :=
  if c.rolls + d.rolls ≤ L.rolls then .ok { c with rolls := c.rolls + d.rolls }
  else if Writable (c.rolls + d.rolls : Nat) then .error (.overLimit (.rolls (c.rolls + d.rolls) L.rolls))
  else .error (.digits .write)

/-- Open one more group. -/
def enter (c : Cursor) : Except Stop Cursor :=
  if c.depth + 1 ≤ L.depth then .ok { c with depth := c.depth + 1 } else .error (.overLimit (.depth L.depth))

/-- Close the innermost open group. -/
def leave (c : Cursor) : Cursor :=
  { c with depth := c.depth - 1 }

/-! ## The grammar -/

/-- A dice term whose lexeme has been read. -/
def readDice (count sides : Numeral) (aggregate : Aggregate) (c : Cursor) : Except Stop (Item × Cursor) := do
  let count ← count.convert
  let sides ← sides.convert
  let c ← c.countItem L
  if sides ≤ L.sides then
    let d : Dice := ⟨count, sides, aggregate⟩
    let c ← c.countRolls L d
    return (.dice d, c)
  else throw (.overLimit (.sides sides L.sides))

/-- A number whose lexeme has been read. -/
def readNumber (n : Numeral) (c : Cursor) : Except Stop (Item × Cursor) := do
  let value ← n.convert
  let c ← c.countItem L
  L.checkNumber value
  return (.number value, c)

/-- A group whose opening parenthesis has been read, by a reader for the expression in it. -/
def readGroup (expr : Cursor → Except Stop (Expr × Cursor)) (c : Cursor) : Except Stop (Item × Cursor) := do
  let c ← c.enter L
  let (e, c) ← expr c
  match Text.skipGap c.rest with
  | ')' :: rest => return (.group e, (c.moveTo rest).leave)
  | rest => throw (.unexpected .closing rest)

/-- One item, by a reader for the expression of a group. -/
def readItem (expr : Cursor → Except Stop (Expr × Cursor)) (c : Cursor) : Except Stop (Item × Cursor) :=
  match Lexeme.scan c.rest with
  | (.opening, rest) => readGroup L expr (c.moveTo rest)
  | (.dice count sides aggregate, rest) => readDice L count sides aggregate (c.moveTo rest)
  | (.noSides, rest) => .error (.unexpected .diceSides rest)
  | (.number n, rest) => readNumber L n (c.moveTo rest)
  | (.missing, rest) => .error (.unexpected .item rest)

/-- The rest of an expression from its next item on, behind the row read so far and the operator after it. Every level
of the recursion reads at least one character, so that as much fuel as there are characters is enough. -/
def readExpr : Nat → Option (Expr × Operator) → Cursor → Except Stop (Expr × Cursor)
  | 0, _, c => .error (.unexpected .item c.rest)
  | fuel + 1, before, c => do
    let (item, c) ← readItem L (readExpr fuel none) c
    match Operator.scan? c.rest with
    | some (op, rest) => readExpr fuel (some (Expr.join before item, op)) (c.moveTo rest)
    | none => return (Expr.join before item, c)

/-- The checker whose comparison has been read. -/
def readTarget (compare : Compare) (c : Cursor) : Except Stop (Checker × Cursor) :=
  match Numeral.scan? (Text.skipGap c.rest) with
  | some (n, rest) => do
    let target ← n.convert
    L.checkNumber target
    return (⟨compare, target⟩, c.moveTo rest)
  | none => .error (.unexpected .target (Text.skipGap c.rest))

/-- The checker at the end of a command, or none at the end of the text. -/
def readChecker (c : Cursor) : Except Stop (Option Checker × Cursor) :=
  match Text.skipGap c.rest with
  | [] => .ok (none, c.moveTo [])
  | rest =>
    match Compare.scan? rest with
    | none => .error (.unexpected .operatorOrChecker rest)
    | some (compare, rest) => do
      let (checker, c) ← readTarget L compare (c.moveTo rest)
      match Text.skipGap c.rest with
      | [] => return (some checker, c.moveTo [])
      | rest => throw (.unexpected .endOfInput rest)

end Cursor

/-! ## Commands -/

/-- What a command says, and what was counted while it was read. -/
structure Reading where
  expr : Expr
  checker : Option Checker
  items : Nat
  rolls : Nat
  deriving DecidableEq, Repr

/-- The reading error of a text that reading stopped in. -/
def Stop.inText (source : String) : Stop → ReadError
  | unexpected expected rest => .syntactic (.unexpected source (source.length - rest.length) expected)
  | overLimit e => .overLimit e
  | digits e => .digits e

/-- Read the characters of a command. -/
def readChars (L : Limits) (cs : List Char) : Except Stop Reading := do
  let (expr, c) ← Cursor.readExpr L (cs.length + 1) none ⟨cs, 0, 0, 0⟩
  let (checker, c) ← c.readChecker L
  return ⟨expr, checker, c.items, c.rolls⟩

/-- Note what a command says and what was counted. Of the numbers in the note only the total of rolled dice can have too
many digits: there are no more items than characters, and the target stands in the text. -/
def Reading.noted (r : Reading) : Except ReadError Reading :=
  if Writable r.rolls then .ok r else .error (.digits .write)

/-- Read a command, and note what was read. A text of blanks alone is refused first. -/
def read (L : Limits) (source : String) : Except ReadError Reading :=
  if source.toList.all Text.isBlank then .error (.syntactic (.blank source))
  else do
    let reading ← (readChars L source.toList).mapError (Stop.inText source)
    reading.noted

end DiceNotation
