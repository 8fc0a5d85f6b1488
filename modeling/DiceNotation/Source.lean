/-!
# Sources of points

Where the points of a roll come from. A source is asked for one point of a die at a time and may run out.

* `List Int`: preset points, given in order whatever the die.
* `Recorded`: a source that remembers what it was asked for.
-/

namespace DiceNotation

/-- A type of sources of points. -/
class Source (σ : Type) where
  /-- A point of a die with some sides, and the source after it; `none` if there is no point left. -/
  draw : Int → σ → Option (Int × σ)

/-- Preset points. -/
instance : Source (List Int) where
  draw
    | _, point :: rest => some (point, rest)
    | _, [] => none

/-- A source and the dice it has given a point of, the last one first. -/
structure Recorded (σ : Type) where
  source : σ
  dice : List Int := []

namespace Recorded

variable {σ : Type}

instance [Source σ] : Source (Recorded σ) where
  draw sides r := (Source.draw sides r.source).map fun (point, source) => (point, ⟨source, sides :: r.dice⟩)

/-- The sides of the dice that the source has given a point of, in order. -/
def asked (r : Recorded σ) : List Int :=
  r.dice.reverse

end Recorded

end DiceNotation
