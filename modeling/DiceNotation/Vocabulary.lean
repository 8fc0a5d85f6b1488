import DiceNotation.Text.Quoted

/-!
# Vocabularies

Four closed vocabularies are named in texts: operators, comparisons, aggregates and languages. A word outside the one
it is looked up in is reported with that vocabulary's name.
-/

namespace DiceNotation

/-- A closed set of words. -/
inductive Vocabulary where
  | operator
  | compare
  | aggregate
  | language
  deriving DecidableEq, Repr

/-- The name of a vocabulary in messages. -/
def Vocabulary.name : Vocabulary → String
  | .operator => "Operator"
  | .compare => "Compare"
  | .aggregate => "PostProcessor"
  | .language => "Language"

/-- A text that is no word of the vocabulary it was looked up in. -/
structure UnknownWord where
  vocabulary : Vocabulary
  text : String
  deriving DecidableEq, Repr

/-- The report of an unknown word. -/
def UnknownWord.message (e : UnknownWord) : String :=
  Text.quoted e.text ++ " is not a valid " ++ e.vocabulary.name

/-- The word's meaning, or the report that it has none. -/
def Vocabulary.lookUp {α : Type} (v : Vocabulary) (meaning? : String → Option α) (text : String) :
    Except UnknownWord α :=
  match meaning? text with
  | some a => .ok a
  | none => .error ⟨v, text⟩

end DiceNotation
