import DiceNotation.Source.Twister

/-!
# Supplies

A source of either kind: preset points, or a seeded generator, which never runs out.
-/

namespace DiceNotation

/-- Preset points or a seeded generator. -/
inductive Supply where
  | preset (points : List Int)
  | seeded (generator : Twister)

namespace Supply

instance : Source Supply where
  draw
    | sides, preset points => (Source.draw sides points).map fun (point, points) => (point, preset points)
    | sides, seeded generator => (Source.draw sides generator).map fun (point, generator) => (point, seeded generator)

/-- How many points are left, if they are counted. -/
def left? : Supply → Option Nat
  | preset points => some points.length
  | seeded _ => none

end Supply

end DiceNotation
