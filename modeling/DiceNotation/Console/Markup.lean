/-!
# Messages among markup

On the console a message stands in a text with markup, where a tag is written between brackets. The message's own
brackets are protected, so that its tags are shown as they are; the protection shows in two places. Outside tags a
backslash before an opening bracket is lost, and a single backslash at the end of the message is doubled.
-/

namespace DiceNotation.Markup

/-- Whether a tag can start with a character. -/
def startsTag (c : Char) : Bool :=
  ('a' ≤ c && c ≤ 'z') || c = '#' || c = '/' || c = '@'

/-- The tag that a text starts with, and what follows it. The tag ends with the first closing bracket, and there is no
opening bracket within it. -/
def tag? : List Char → Option (List Char × List Char)
  | '[' :: c :: rest =>
    if startsTag c then
      match rest.span fun c => c != ']' && c != '[' with
      | (inside, ']' :: after) => some ('[' :: c :: inside ++ [']'], after)
      | _ => none
    else none
  | _ => none

/-- Whether a text ends with exactly one backslash. -/
def endsWithBackslash (cs : List Char) : Bool :=
  match cs.reverse with
  | '\\' :: '\\' :: _ => false
  | '\\' :: _ => true
  | _ => false

/-- A text outside tags: a backslash before an opening bracket is lost. -/
def dropBackslashes : List Char → List Char
  | '\\' :: '[' :: rest => '[' :: dropBackslashes rest
  | c :: rest => c :: dropBackslashes rest
  | [] => []

/-- A message as it is shown, behind the text outside tags that has been read. A tag is shown with the backslashes in
front of it. -/
def showTags : Nat → List Char → List Char → List Char
  | 0, before, _ => dropBackslashes before.reverse
  | _, before, [] => dropBackslashes before.reverse
  | fuel + 1, before, c :: rest =>
    match tag? (c :: rest) with
    | some (tag, after) =>
      let backslashes := before.takeWhile (· = '\\')
      dropBackslashes (before.dropWhile (· = '\\')).reverse ++ backslashes ++ tag ++ showTags fuel [] after
    | none => showTags fuel (c :: before) rest

/-- A message as it is shown. -/
def shown (message : List Char) : List Char :=
  let cs := showTags (message.length + 1) [] message
  if endsWithBackslash message then cs ++ ['\\'] else cs

end DiceNotation.Markup
