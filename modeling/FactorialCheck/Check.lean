import FactorialCheck.Factorial
import FactorialCheck.Log.Traced

/-!
# Evaluation and check

One strategy is evaluated, or all three are and their results compared. Nothing
is logged before every result is there.
-/

namespace FactorialCheck

/-- The input a check has when nothing else is configured. -/
def defaultInput : Int64 := 5

/-- The result of one strategy. -/
def evaluate (strategy : Strategy) (n : Int64) : Traced Failure UInt64 := do
  let value ← .ofExcept (strategy.compute n)
  .emit (.evaluated strategy n value)
  pure value

/-- The results of all three, the first failure in this order deciding. -/
def check (n : Int64) : Traced Failure Report := do
  let recursive ← .ofExcept (Strategy.recursive.compute n)
  let forLoop ← .ofExcept (Strategy.forLoop.compute n)
  let whileLoop ← .ofExcept (Strategy.whileLoop.compute n)
  .emit (.computed .recursive n recursive)
  .emit (.computed .forLoop n forLoop)
  .emit (.computed .whileLoop n whileLoop)
  let report : Report := ⟨n, recursive, forLoop, whileLoop⟩
  .emit (.finished report)
  pure report

end FactorialCheck
