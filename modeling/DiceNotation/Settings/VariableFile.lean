import DiceNotation.Entries
import DiceNotation.Text.Blank

/-!
# Variable files

A text of variables, one on a line: a name, an equals sign and a value, with `export` in front if one likes. A value may
stand between single or double quotes, with escapes, and then go on over several lines; without quotes it ends with the
line or with a blank and a `#`. A name without an equals sign is a variable without a value. A line that cannot be read
is passed over.

A value may refer to variables, as in `${NAME}` or, with a default, `${NAME:-default}`: to those above it in the text,
and else to those of an environment.

* `read`: the variables of a text over an environment.
* `references`: the names that a text may refer to.
-/

namespace DiceNotation.VariableFile

/-- The text without a byte order mark in front. -/
def dropMark : List Char → List Char
  | '\ufeff' :: rest => rest
  | cs => cs

/-- A blank within a line. -/
def isInlineBlank (c : Char) : Bool :=
  Text.isBlank c && c != '\n'

/-- The text with every line ending written as a line feed. -/
def unifyLines : List Char → List Char
  | '\r' :: '\n' :: rest => '\n' :: unifyLines rest
  | '\r' :: rest => '\n' :: unifyLines rest
  | c :: rest => c :: unifyLines rest
  | [] => []

/-- The text after the current line. -/
def skipLine (cs : List Char) : List Char :=
  (cs.dropWhile (· != '\n')).drop 1

/-- The text after the word `export` and blanks, if it starts with them. -/
def skipExport (cs : List Char) : List Char :=
  if "export".toList.isPrefixOf cs then
    let rest := cs.drop 6
    if (rest.head?.map isInlineBlank).getD false then rest.dropWhile isInlineBlank else cs
  else cs

/-! ## Names and values

Each reader gives what it read and the text after it, or the text from which the line is passed over. -/

/-- A name, between single quotes or as a run of characters other than blanks, `=` and `#`; a line that starts with `#`
has none. -/
def readName (cs : List Char) : Except (List Char) (Option String × List Char) :=
  match cs with
  | '#' :: _ => .ok (none, cs)
  | '\'' :: rest =>
    match rest.span (· != '\'') with
    | (c :: name, _ :: after) => .ok (some (String.ofList (c :: name)), after)
    | _ => .error cs
  | _ =>
    match cs.span fun c => c != '=' && c != '#' && !Text.isBlank c with
    | ([], _) => .error cs
    | (name, rest) => .ok (some (String.ofList name), rest)

/-- The text up to the quote that closes it and the text after that quote, behind the characters read so far. The
character after a backslash closes nothing. -/
def spanQuoted (mark : Char) (before : List Char) : List Char → Option (List Char × List Char)
  | [] => none
  | '\\' :: c :: rest => spanQuoted mark (c :: '\\' :: before) rest
  | c :: rest => if c = mark then some (before.reverse, rest) else spanQuoted mark (c :: before) rest

/-- The character that an escape between double quotes stands for. -/
def escaped? : Char → Option Char
  | '\\' => some '\\'
  | '\'' => some '\''
  | '"' => some '"'
  | 'a' => some '\x07'
  | 'b' => some '\x08'
  | 'f' => some '\x0c'
  | 'n' => some '\n'
  | 'r' => some '\r'
  | 't' => some '\t'
  | 'v' => some '\x0b'
  | _ => none

/-- Resolve the escapes that a kind of quotes knows, behind a backslash or not. -/
def unescape (known : Char → Option Char) : Bool → List Char → List Char
  | false, [] => []
  | true, [] => ['\\']
  | false, c :: rest => if c = '\\' then unescape known true rest else c :: unescape known false rest
  | true, c :: rest =>
    match known c with
    | some d => d :: unescape known false rest
    | none => '\\' :: c :: unescape known false rest

/-- The escapes between quotes of a kind: all of them between double quotes, two between single quotes. -/
def knownEscape (mark c : Char) : Option Char :=
  if mark = '"' || c = '\\' || c = '\'' then escaped? c else none

/-- A value without quotes up to a comment: the first run of blanks before a `#` ends it. -/
def dropComment : List Char → List Char
  | [] => []
  | c :: rest =>
    if Text.isBlank c && (rest.dropWhile Text.isBlank).head? = some '#' then [] else c :: dropComment rest

/-- A value whose opening quote has been read. -/
def readQuoted (mark : Char) (cs : List Char) : Except (List Char) (String × List Char) :=
  match spanQuoted mark [] cs with
  | some (text, rest) => .ok (String.ofList (unescape (knownEscape mark) false text), rest)
  | none => .error cs

/-- A value without quotes: what stands on the line before a comment, without the blanks around it. -/
def readUnquoted (cs : List Char) : String × List Char :=
  let (line, rest) := cs.span (· != '\n')
  (String.ofList (Text.trim Text.isBlank (dropComment line)), rest)

/-- A value, behind blanks. -/
def readValue (cs : List Char) : Except (List Char) (String × List Char) :=
  match cs.dropWhile isInlineBlank with
  | '\'' :: rest => readQuoted '\'' rest
  | '"' :: rest => readQuoted '"' rest
  | _ => .ok (readUnquoted cs)

/-- The end of a line, behind blanks and a comment. -/
def readEnd (cs : List Char) : Except (List Char) (List Char) :=
  let rest := cs.dropWhile isInlineBlank
  let rest := if rest.head? = some '#' then rest.dropWhile (· != '\n') else rest
  match rest with
  | [] => .ok []
  | '\n' :: rest => .ok rest
  | _ => .error cs

/-! ## Lines -/

/-- A variable, or nothing for a comment, and the text after its line. -/
def readLine (cs : List Char) : Except (List Char) (Option (String × Option String) × List Char) := do
  let (name, rest) ← readName (skipExport cs)
  let rest := rest.dropWhile isInlineBlank
  let (value, rest) ← match rest with
    | '=' :: rest => (readValue rest).map fun (value, rest) => (some value, rest)
    | _ => .ok (none, rest)
  let rest ← readEnd rest
  return (name.map (·, value), rest)

/-! ## References -/

/-- The name and the default of the reference that a text starts with, and what follows it. -/
def reference? : List Char → Option (String × String × List Char)
  | '$' :: '{' :: rest =>
    match rest.span fun c => c != '}' && c != ':' with
    | (name, '}' :: rest) => some (String.ofList name, "", rest)
    | (name, ':' :: '-' :: rest) =>
      match rest.span (· != '}') with
      | (default, _ :: rest) => some (String.ofList name, String.ofList default, rest)
      | (_, []) => none
    | _ => none
  | _ => none

/-- The value of a reference. A variable of the text without a value counts as empty, whatever the default. -/
def resolve (environment : Entries String) (found : Entries (Option String)) (name default : String) : String :=
  match found.find? name with
  | some value => value.getD ""
  | none => (environment.find? name).getD default

/-- A value with its references replaced. Every step takes at least one character. -/
def substitute (resolve : String → String → String) : Nat → List Char → List Char
  | 0, cs => cs
  | _, [] => []
  | fuel + 1, c :: rest =>
    match reference? (c :: rest) with
    | some (name, default, rest) => (resolve name default).toList ++ substitute resolve fuel rest
    | none => c :: substitute resolve fuel rest

/-- The value of a variable, over an environment and the variables above it. -/
def expand (environment : Entries String) (found : Entries (Option String)) (value : String) : String :=
  String.ofList (substitute (resolve environment found) value.length value.toList)

/-- The names in the references that start anywhere in a text. -/
def referredNames : List Char → List String
  | [] => []
  | c :: rest =>
    match reference? (c :: rest) with
    | some (name, _, _) => name :: referredNames rest
    | none => referredNames rest

/-- The names that a text may refer to. -/
def references (text : String) : List String :=
  referredNames text.toList

/-! ## Whole texts -/

/-- The variables of a text over an environment, after those found before it. Every line takes at least one
character. -/
def readLines (environment : Entries String) : Nat → Entries (Option String) → List Char → Entries (Option String)
  | 0, found, _ => found
  | fuel + 1, found, cs =>
    match cs.dropWhile Text.isBlank with
    | [] => found
    | cs =>
      match readLine cs with
      | .ok (some (name, value), rest) =>
        readLines environment fuel (found.insert name (value.map (expand environment found))) rest
      | .ok (none, rest) => readLines environment fuel found rest
      | .error rest => readLines environment fuel found (skipLine rest)

/-- The variables of a text over an environment, the later of two with one name. -/
def read (environment : Entries String) (text : String) : Entries (Option String) :=
  let cs := unifyLines (dropMark text.toList)
  readLines environment (cs.length + 1) [] cs

end DiceNotation.VariableFile
