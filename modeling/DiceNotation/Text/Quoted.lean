import DiceNotation.Text.Printable

/-!
# Quotations

How a message quotes a character or a text: between single quotes, or between double quotes when the text holds a
single quote and no double quote. The backslash and the quote in use are escaped, a character that is not printable is
written as its code point in lower-case hexadecimal, and line feed, carriage return and tab have names.
-/

namespace DiceNotation.Text

/-- A number in lower-case hexadecimal, filled up with zeros to a width. -/
def hexadecimal (width n : Nat) : List Char :=
  let digits := Nat.toDigits 16 n
  List.replicate (width - digits.length) '0' ++ digits

/-- A character as it stands between quotes of the kind `mark`. -/
def escape (mark c : Char) : List Char :=
  if c = mark || c = '\\' then ['\\', c]
  else if c = '\n' then ['\\', 'n']
  else if c = '\r' then ['\\', 'r']
  else if c = '\t' then ['\\', 't']
  else if isPrintable c then [c]
  else if c.toNat < 0x100 then '\\' :: 'x' :: hexadecimal 2 c.toNat
  else if c.toNat < 0x10000 then '\\' :: 'u' :: hexadecimal 4 c.toNat
  else '\\' :: 'U' :: hexadecimal 8 c.toNat

/-- The quotes that a text is put between. -/
def quoteMark (s : String) : Char :=
  if s.contains '\'' && !s.contains '"' then '"' else '\''

/-- A text between quotes. -/
def quoted (s : String) : String :=
  let mark := quoteMark s
  String.ofList (mark :: s.toList.flatMap (escape mark) ++ [mark])

end DiceNotation.Text
