import DiceNotation.Numeral
import DiceNotation.Text.Blank

/-!
# Loose numerals

A whole number as people write it: white space around it, a sign, zeros in front, underscores among the digits, and a
point with zeros behind. What is left without these has to be a plain numeral: a minus sign or none, and digits of which
the first is zero only if it is the last.

* `Numeral.readPlain`: the number that a plain numeral is.
* `Numeral.readLoose`: the number that a loose numeral is.
-/

namespace DiceNotation

/-- Why a text is not taken for a number: it has another form, or too many digits. -/
inductive LooseError where
  | malformed
  | tooLong
  deriving DecidableEq, Repr

namespace Numeral

/-- The number that a text is, if it is a plain numeral. Too many digits are reported whatever comes after them. -/
def readPlain (cs : List Char) : Except LooseError Int :=
  match scan? cs with
  | none => .error .malformed
  | some (n, rest) =>
    if n.digits.head? = some '0' ∧ n.digits ≠ ['0'] then .error .malformed
    else match n.read with
      | .error _ => .error .tooLong
      | .ok value => if rest.isEmpty then .ok value else .error .malformed

/-- Whether a character can start a numeral without zeros in front. -/
def startsNumeral (c : Char) : Bool :=
  ('1' ≤ c && c ≤ '9') || c = '-'

/-- The numeral behind some zeros and underscores. The last of them stays if the text ends there, or if a point
follows. -/
def dropZerosAfter (last : Char) : List Char → Option (List Char)
  | [] => some [last]
  | c :: rest =>
    if c = '0' || c = '_' then dropZerosAfter c rest
    else if startsNumeral c then some (c :: rest)
    else if c = '.' then some (last :: c :: rest)
    else none

/-- A text without the zeros in front of its numeral and the underscores among them; `none` if there is no numeral. -/
def dropZeros : List Char → Option (List Char)
  | [] => none
  | c :: rest => if c = '0' then dropZerosAfter c rest else if startsNumeral c then some (c :: rest) else none

/-- A text without a point and zeros at its end. -/
def dropFraction (cs : List Char) : List Char :=
  match cs.span (· ≠ '.') with
  | (whole, _ :: zeros) => if !zeros.isEmpty && zeros.all (· = '0') then whole else cs
  | (_, []) => cs

/-- Whether every underscore stands between two other characters, behind an underscore or the start, or not. -/
def groupsWell : Bool → List Char → Bool
  | afterUnderscore, [] => !afterUnderscore
  | afterUnderscore, c :: rest => if c = '_' then !afterUnderscore && groupsWell true rest else groupsWell false rest

/-- A text without its underscores, if every one of them stands between two other characters. -/
def joinGroups (cs : List Char) : List Char :=
  if groupsWell true cs then cs.filter (· ≠ '_') else cs

/-- A magnitude as a plain numeral writes it; `none` if the text does not start as a magnitude. -/
def cleanMagnitude (cs : List Char) : Option (List Char) :=
  (dropZeros cs).map fun cs => joinGroups (dropFraction cs)

/-- A loose numeral as a plain one; `none` if the text does not start as a numeral. -/
def clean (cs : List Char) : Option (List Char) :=
  match Text.trim Text.isWhiteSpace cs with
  | '-' :: rest => (cleanMagnitude rest).map ('-' :: ·)
  | '+' :: '-' :: _ => none
  | '+' :: rest => cleanMagnitude rest
  | rest => cleanMagnitude rest

/-- The number that a text is, if it is a loose numeral. Too many digits are told from another form only where there is
nothing to clean before them. -/
def readLoose (cs : List Char) : Except LooseError Int :=
  match readPlain cs with
  | .error .malformed => ((clean cs).elim (.error .malformed) readPlain).mapError fun _ => .malformed
  | result => result

end Numeral

end DiceNotation
