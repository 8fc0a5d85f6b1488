import DiceNotation.CommandLine
import DiceNotation.Expr.Digest
import DiceNotation.Main
import DiceNotation.Proofs.Composition
import DiceNotation.Proofs.Console.Caret
import DiceNotation.Proofs.Console.Summary
import DiceNotation.Proofs.Reading.Depth
import DiceNotation.Proofs.Reading.LetterCase
import DiceNotation.Proofs.Reading.Raising
import DiceNotation.Proofs.Reading.Respacing
import DiceNotation.Proofs.Reading.Unexpected
import DiceNotation.Proofs.Refusal
import DiceNotation.Proofs.Roll.Drawing
import DiceNotation.Proofs.Roll.Magnitude
import DiceNotation.Proofs.Roll.Monotonicity
import DiceNotation.Proofs.Roll.Range
import DiceNotation.Proofs.Roll.Simplification
import DiceNotation.Proofs.Session.Repetition
import DiceNotation.Proofs.Session.Runs
import DiceNotation.Proofs.Trace.Cancellation
