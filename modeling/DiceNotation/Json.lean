import DiceNotation.Entries

/-!
# JSON values

An integer and a number written with a fraction or an exponent are told apart, and the members of an object keep the
order of their names' first appearance.
-/

namespace DiceNotation

/-- A JSON value. -/
inductive Json where
  | null
  | bool (b : Bool)
  | int (n : Int)
  | float (x : Float)
  | string (s : String)
  | array (elements : List Json)
  | object (members : List (String × Json))
  deriving Inhabited

namespace Json

/-- The member of an object with a name. -/
def get? (name : String) : Json → Option Json
  | .object members => Entries.find? members name
  | _ => none

end Json

end DiceNotation
