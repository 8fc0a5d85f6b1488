import DiceNotation.Json
import DiceNotation.Numeral

/-!
# Reading JSON

The grammar is that of the standard with two liberties: `NaN`, `Infinity` and `-Infinity` are numbers, and of two
members of one name the later gives the value. An integer keeps to the digit bound of numerals.
-/

namespace DiceNotation.Json

/-- What is left after the leading white space. -/
def skipSpace (cs : List Char) : List Char :=
  cs.dropWhile fun c => c = ' ' || c = '\t' || c = '\n' || c = '\r'

/-! ## Strings -/

/-- The value of a hexadecimal digit of either case. -/
def hexValue? (c : Char) : Option Nat :=
  if c.isDigit then some (c.toNat - '0'.toNat)
  else if 'a' ≤ c ∧ c ≤ 'f' then some (c.toNat - 'a'.toNat + 10)
  else if 'A' ≤ c ∧ c ≤ 'F' then some (c.toNat - 'A'.toNat + 10)
  else none

/-- The character that a one-letter escape stands for. -/
def escaped? : Char → Option Char
  | '"' => some '"'
  | '\\' => some '\\'
  | '/' => some '/'
  | 'b' => some '\x08'
  | 'f' => some '\x0c'
  | 'n' => some '\n'
  | 'r' => some '\r'
  | 't' => some '\t'
  | _ => none

/-- Put a code unit before others, joining a high surrogate to a low one. -/
def joinUnit (unit : Nat) (units : List Nat) : List Nat :=
  match units with
  | next :: rest =>
    if 0xd800 ≤ unit ∧ unit < 0xdc00 ∧ 0xdc00 ≤ next ∧ next < 0xe000 then
      (0x10000 + (unit - 0xd800) * 0x400 + (next - 0xdc00)) :: rest
    else unit :: units
  | [] => [unit]

/-- The character of a code point; an unpaired surrogate is shown as the replacement character. -/
def character (n : Nat) : Char :=
  if n.isValidChar then Char.ofNat n else Char.ofNat 0xfffd

/-- The code units of a string whose opening quote has been read, and what follows its closing quote. -/
def readUnits (units : List Nat) : List Char → Option (List Nat × List Char)
  | [] => none
  | '"' :: rest => some (units.reverse, rest)
  | '\\' :: 'u' :: a :: b :: c :: d :: rest =>
    match hexValue? a, hexValue? b, hexValue? c, hexValue? d with
    | some a, some b, some c, some d => readUnits ((((a * 16 + b) * 16 + c) * 16 + d) :: units) rest
    | _, _, _, _ => none
  | '\\' :: c :: rest =>
    match escaped? c with
    | some c => readUnits (c.toNat :: units) rest
    | none => none
  | c :: rest => if c.toNat < 0x20 then none else readUnits (c.toNat :: units) rest

/-- The string whose opening quote has been read, and what follows its closing quote. -/
def readString (cs : List Char) : Option (String × List Char) :=
  (readUnits [] cs).map fun (units, rest) => (String.ofList ((units.foldr joinUnit []).map character), rest)

/-! ## Numbers -/

/-- The floating-point number nearest to `mantissa · 10^exponent`. -/
def nearestFloat (mantissa : Nat) (exponent : Int) : Float :=
  let magnitude := (Nat.toDigits 10 mantissa).length + exponent
  if mantissa = 0 ∨ magnitude < -400 then 0.0
  else if magnitude > 400 then 1.0 / 0.0
  else if exponent < 0 then Float.ofScientific mantissa true exponent.natAbs
  else Float.ofScientific mantissa false exponent.natAbs

/-- The digits after a point; none if the text does not go on as a fraction. -/
def readFraction : List Char → List Char × List Char
  | '.' :: rest =>
    match rest.takeWhile Char.isDigit with
    | [] => ([], '.' :: rest)
    | digits => (digits, rest.dropWhile Char.isDigit)
  | cs => ([], cs)

/-- The exponent; `none` if the text does not go on as an exponent. -/
def readExponent (cs : List Char) : Option Int × List Char :=
  match cs with
  | e :: rest =>
    if e = 'e' ∨ e = 'E' then
      let (negative, digits) := match rest with
        | '-' :: r => (true, r)
        | '+' :: r => (false, r)
        | r => (false, r)
      match Numeral.scanDigits negative digits with
      | some (n, after) => (some n.value, after)
      | none => (none, cs)
    else (none, cs)
  | [] => (none, cs)

/-- The number that a text starts with, and what follows it. -/
def readNumber (cs : List Char) : Option (Json × List Char) := do
  let (whole, rest) ← Numeral.scan? cs
  let (whole, rest) := match whole.digits with
    | '0' :: more => ((⟨whole.negative, ['0']⟩ : Numeral), more ++ rest)
    | _ => (whole, rest)
  let (fraction, rest) := readFraction rest
  let (exponent, rest) := readExponent rest
  if fraction.isEmpty && exponent.isNone then
    match whole.read with
    | .ok n => some (.int n, rest)
    | .error _ => none
  else
    let mantissa := Nat.ofDigitChars 10 (whole.digits ++ fraction) 0
    let x := nearestFloat mantissa (exponent.getD 0 - fraction.length)
    some (.float (if whole.negative then -x else x), rest)

/-! ## Values -/

/-- The words that stand for values. -/
def words : List (String × Json) :=
  [("null", .null), ("true", .bool true), ("false", .bool false), ("NaN", .float (0.0 / 0.0)),
    ("Infinity", .float (1.0 / 0.0)), ("-Infinity", .float (-1.0 / 0.0))]

/-- The word that a text starts with, and what follows it. -/
def readWord (cs : List Char) : Option (Json × List Char) :=
  words.findSome? fun (word, value) =>
    if word.toList.isPrefixOf cs then some (value, cs.drop word.length) else none

mutual

/-- The value that a text starts with, and what follows it. -/
def readValue : Nat → List Char → Option (Json × List Char)
  | 0, _ => none
  | fuel + 1, cs =>
    match skipSpace cs with
    | '"' :: rest => (readString rest).map fun (s, rest) => (.string s, rest)
    | '[' :: rest =>
      match skipSpace rest with
      | ']' :: rest => some (.array [], rest)
      | rest => readElements fuel [] rest
    | '{' :: rest =>
      match skipSpace rest with
      | '}' :: rest => some (.object [], rest)
      | rest => readMembers fuel [] rest
    | cs => readWord cs <|> readNumber cs

/-- The elements of an array up to its closing bracket, after those read so far. -/
def readElements : Nat → List Json → List Char → Option (Json × List Char)
  | 0, _, _ => none
  | fuel + 1, before, cs => do
    let (value, rest) ← readValue fuel cs
    match skipSpace rest with
    | ',' :: rest => readElements fuel (value :: before) rest
    | ']' :: rest => some (.array (value :: before).reverse, rest)
    | _ => none

/-- The members of an object up to its closing brace, over those read so far. -/
def readMembers : Nat → Entries Json → List Char → Option (Json × List Char)
  | 0, _, _ => none
  | fuel + 1, before, cs =>
    match skipSpace cs with
    | '"' :: rest => do
      let (name, rest) ← readString rest
      match skipSpace rest with
      | ':' :: rest =>
        let (value, rest) ← readValue fuel rest
        match skipSpace rest with
        | ',' :: rest => readMembers fuel (before.insert name value) rest
        | '}' :: rest => some (.object (before.insert name value), rest)
        | _ => none
      | _ => none
    | _ => none

end

/-- The value that a text is, white space around it aside. -/
def read? (s : String) : Option Json := do
  let cs := s.toList
  let (value, rest) ← readValue (cs.length + 1) cs
  if (skipSpace rest).isEmpty then some value else none

end DiceNotation.Json
