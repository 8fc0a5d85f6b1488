/-!
# Numerals

A numeral is an optional minus sign and a run of ASCII digits. It is read in decimal, leading zeros included, but only
up to a greatest number of digits, and a number is written only if its decimal form keeps to the same bound.

* `Numeral.value`: the number that a numeral stands for.
* `Numeral.read`: the same, refused when the numeral has too many digits.
* `Writable`: the numbers that have a written form.
-/

namespace DiceNotation

/-- The greatest number of digits, without the sign, that a number is read from or written with. -/
def maxDigits : Nat := 4300

/-- A minus sign, or none, and the digits after it. -/
structure Numeral where
  negative : Bool
  digits : List Char
  deriving DecidableEq, Repr

namespace Numeral

/-- The run of digits that a text starts with, and what follows it. -/
def scanDigits (negative : Bool) (cs : List Char) : Option (Numeral × List Char) :=
  match cs.takeWhile Char.isDigit with
  | [] => none
  | digits => some (⟨negative, digits⟩, cs.dropWhile Char.isDigit)

/-- The numeral that a text starts with, and what follows it. -/
def scan? : List Char → Option (Numeral × List Char)
  | '-' :: rest => scanDigits true rest
  | cs => scanDigits false cs

/-- The number that a numeral stands for. -/
def value (n : Numeral) : Int :=
  let magnitude : Int := Nat.ofDigitChars 10 n.digits 0
  if n.negative then -magnitude else magnitude

/-- The number that a numeral stands for, or how many digits it has if they are too many. -/
def read (n : Numeral) : Except Nat Int :=
  if n.digits.length ≤ maxDigits then .ok n.value else .error n.digits.length

end Numeral

/-- A number with at most `maxDigits` digits in decimal. -/
def Writable (n : Int) : Prop :=
  (Nat.toDigits 10 n.natAbs).length ≤ maxDigits

instance (n : Int) : Decidable (Writable n) :=
  Nat.decLe _ _

/-- A number in decimal. -/
def decimal (n : Int) : List Char :=
  if n < 0 then '-' :: Nat.toDigits 10 n.natAbs else Nat.toDigits 10 n.natAbs

/-! ## Too many digits -/

/-- A number with more digits than are read, or than are written. -/
inductive DigitError where
  | read (digits : Nat)
  | write
  deriving DecidableEq, Repr

/-- The report of a number with too many digits. -/
def DigitError.message : DigitError → String
  | read digits =>
    "Exceeds the limit (4300 digits) for integer string conversion: value has " ++ toString digits ++
      " digits; use sys.set_int_max_str_digits() to increase the limit"
  | write =>
    "Exceeds the limit (4300 digits) for integer string conversion; use sys.set_int_max_str_digits() to increase the limit"

end DiceNotation
