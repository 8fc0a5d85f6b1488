import DiceNotation.Json
import DiceNotation.Limits
import DiceNotation.Numeral.Loose

/-!
# Limits from loose values

A bound may be given as an integer, a truth value, a floating-point number without a fraction, or a loose numeral.
Whatever its form, the number has to be at least 1. All bounds that cannot be had are reported together.

* `Bound.ofJson`: one bound.
* `Limits.ofMembers`: the bounds given by name, with the defaults for those that are not given.
-/

namespace DiceNotation

/-- Why a given value is refused. -/
inductive Refusal where
  | greaterThan
  | intParsing
  | intParsingSize
  | intType
  | intFromFloat
  | finiteNumber
  | boolParsing
  | enum
  | modelType
  deriving DecidableEq, Repr

/-- How a report names a refusal. -/
def Refusal.name : Refusal → String
  | greaterThan => "greater_than"
  | intParsing => "int_parsing"
  | intParsingSize => "int_parsing_size"
  | intType => "int_type"
  | intFromFloat => "int_from_float"
  | finiteNumber => "finite_number"
  | boolParsing => "bool_parsing"
  | enum => "enum"
  | modelType => "model_type"

/-- A refused value: where it was given, and why it is refused. -/
structure Fault where
  path : List String
  refusal : Refusal
  deriving DecidableEq, Repr

/-! ## Whole numbers -/

/-- How a text that is no number is refused. -/
def LooseError.refusal : LooseError → Refusal
  | malformed => .intParsing
  | tooLong => .intParsingSize

/-- The whole number that a value is taken for. -/
def Json.toWhole : Json → Except Refusal Int
  | .int n => .ok n
  | .bool b => .ok (if b then 1 else 0)
  | .float x =>
    if x.isNaN || x.isInf then .error .finiteNumber
    else if x.floor != x then .error .intFromFloat
    else if -9223372036854775808.0 < x && x < 9223372036854775808.0 then .ok x.toInt64.toInt
    else .error .intParsingSize
  | .string s => (Numeral.readLoose s.toList).mapError LooseError.refusal
  | _ => .error .intType

/-! ## Bounds -/

/-- The bound that a number is. -/
def Bound.ofInt (n : Int) : Except Refusal Bound :=
  if h : 0 < n.toNat then .ok ⟨n.toNat, h⟩ else .error .greaterThan

/-- The bound that a value is taken for. -/
def Bound.ofJson (value : Json) : Except Refusal Bound :=
  value.toWhole.bind Bound.ofInt

/-- One bound among values given by name. -/
def Limit.ofMembers (members : Entries Json) (l : Limit) : Except Refusal Bound :=
  match members.find? l.name with
  | none => .ok (Limits.standard.get l)
  | some value => Bound.ofJson value

/-- The refusal of one bound among values given by name, if it is refused. -/
def Limit.fault? (members : Entries Json) (l : Limit) : Option Fault :=
  match l.ofMembers members with
  | .ok _ => none
  | .error refusal => some ⟨[l.name], refusal⟩

/-- The limits among values given by name, or every refusal in the order of the bounds. -/
def Limits.ofMembers (members : Entries Json) : Except (List Fault) Limits :=
  match Limit.all.filterMap (Limit.fault? members) with
  | [] => .ok (Limits.ofFn fun l => (l.ofMembers members).toOption.getD (Limits.standard.get l))
  | faults => .error faults

end DiceNotation
