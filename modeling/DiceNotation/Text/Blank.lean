/-!
# Blank characters

Three classes of blanks, from the narrowest to the widest.

* `isGap`: what may stand between the tokens of a command, a space or a tab.
* `isWhiteSpace`: the characters with the Unicode property `White_Space`.
* `isBlank`: those and the four separators U+001C to U+001F; a text of nothing else counts as empty.
-/

namespace DiceNotation.Text

/-- A space or a tab. -/
def isGap (c : Char) : Bool :=
  c = ' ' || c = '\t'

/-- The characters with the Unicode property `White_Space`. -/
def isWhiteSpace (c : Char) : Bool :=
  let n := c.toNat
  (9 ≤ n && n ≤ 13) || n = 0x20 || n = 0x85 || n = 0xa0 || n = 0x1680 || (0x2000 ≤ n && n ≤ 0x200a) || n = 0x2028 ||
    n = 0x2029 || n = 0x202f || n = 0x205f || n = 0x3000

/-- White space, or one of the information separators U+001C to U+001F. -/
def isBlank (c : Char) : Bool :=
  isWhiteSpace c || (0x1c ≤ c.toNat && c.toNat ≤ 0x1f)

theorem isBlank_of_isGap {c : Char} (h : isGap c = true) : isBlank c = true := by
  rcases (by simpa [isGap] using h : c = ' ' ∨ c = '\t') with rfl | rfl <;> rfl

/-- What is left after the leading spaces and tabs. -/
def skipGap (cs : List Char) : List Char :=
  cs.dropWhile isGap

@[simp] theorem skipGap_nil : skipGap [] = [] := rfl

theorem skipGap_cons_of_isGap {c : Char} (h : isGap c = true) (cs : List Char) :
    skipGap (c :: cs) = skipGap cs := by
  simp [skipGap, h]

theorem skipGap_cons_of_not_isGap {c : Char} (h : isGap c = false) (cs : List Char) :
    skipGap (c :: cs) = c :: cs := by
  simp [skipGap, h]

/-- The text without the leading and the trailing characters of a class. -/
def trim (p : Char → Bool) (cs : List Char) : List Char :=
  ((cs.dropWhile p).reverse.dropWhile p).reverse

end DiceNotation.Text
