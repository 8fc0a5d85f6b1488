import DiceNotation.Text.Columns

/-!
# Printed lines

How a text is printed: control characters that move the cursor or ring the bell are left out, a line feed ends a line,
and a tab fills the line with blanks up to the next multiple of eight columns.

* `print`: the lines in which a text is printed.
-/

namespace DiceNotation.Screen

/-- Whether a character is left out: the bell, the backspace, and the vertical movements. -/
def isDropped (c : Char) : Bool :=
  c = '\x07' || c = '\x08' || c = '\x0b' || c = '\x0c' || c = '\r'

/-- The distance between two tab stops. -/
def tabSize : Nat := 8

/-- The parts of a text between the occurrences of a character. -/
def splitAt (separator : Char) : List Char → List (List Char)
  | [] => [[]]
  | c :: rest =>
    if c = separator then [] :: splitAt separator rest
    else match splitAt separator rest with
      | part :: parts => (c :: part) :: parts
      | [] => [[c]]

/-- The parts of a line between its tabs, from some column on, with the tabs filled up. The first blank of a tab is
measured together with the part before it. -/
def joinTabs (column : Nat) : List (List Char) → List Char
  | [] => []
  | [part] => part
  | part :: parts =>
    let part := part ++ [' ']
    let column := column + Text.columns part
    let blanks := (tabSize - column % tabSize) % tabSize
    part ++ List.replicate blanks ' ' ++ joinTabs (column + blanks) parts

/-- A line with its tabs filled up. -/
def expandTabs (line : List Char) : List Char :=
  joinTabs 0 (splitAt '\t' line)

/-- The lines in which a text is printed. -/
def print (cs : List Char) : List (List Char) :=
  (splitAt '\n' (cs.filter fun c => !isDropped c)).map expandTabs

/-- The lines in which a text is printed. -/
def printText (s : String) : List (List Char) :=
  print s.toList

end DiceNotation.Screen
