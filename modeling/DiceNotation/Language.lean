import DiceNotation.Vocabulary

/-!
# Languages

The languages that a verdict is written in.
-/

namespace DiceNotation

/-- A language of verdicts. -/
inductive Language where
  | en
  | zh
  deriving DecidableEq, Repr

namespace Language

/-- The code of a language. -/
def code : Language → String
  | en => "en"
  | zh => "zh"

/-- The language with a code. -/
def ofCode? : String → Option Language
  | "en" => some en
  | "zh" => some zh
  | _ => none

/-- The words before the comparison in a verdict. -/
def target : Language → String
  | en => ", target is "
  | zh => "，目标 "

/-- The words after the comparison in a verdict. -/
def outcome : Language → Bool → String
  | en, true => ", success"
  | en, false => ", failed"
  | zh, true => "，成功"
  | zh, false => "，失败"

end Language

end DiceNotation
