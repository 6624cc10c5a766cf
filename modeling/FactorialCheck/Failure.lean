import FactorialCheck.Numeral

/-!
# Failures

Why a computation or the announcement of its result fails.
-/

namespace FactorialCheck

inductive Failure where
  | invalidInput (n : Int64)
  | recursionLimit (n limit : Int64)
  | overflow (n : Int64)
  | io (text : String)
  deriving DecidableEq, Repr

namespace Failure

def message : Failure → String
  | .invalidInput n => s!"invalid input: {Numeral.ofInput n} is negative"
  | .recursionLimit n limit =>
    s!"recursion limit exceeded: depth {Numeral.ofInput n} is above {Numeral.ofInput limit}"
  | .overflow n => s!"factorial of {Numeral.ofInput n} does not fit in 64 bits"
  | .io text => text

end Failure

end FactorialCheck
