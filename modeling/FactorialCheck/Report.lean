import FactorialCheck.Json.Writer
import FactorialCheck.Numeral

/-!
# Reports

The results of the three computations for one input, and the verdict on them.
-/

namespace FactorialCheck

structure Report where
  input : Int64
  recursive : UInt64
  forLoop : UInt64
  whileLoop : UInt64
  deriving DecidableEq, Repr

namespace Report

/-- What is announced when the three results agree. -/
def success : String := "Great it works !"

/-- What is announced when they do not. -/
def failure : String := "Not working :("

def agrees (report : Report) : Bool :=
  report.recursive == report.forLoop && report.recursive == report.whileLoop

def message (report : Report) : String :=
  if report.agrees then success else failure

theorem agrees_iff (report : Report) :
    report.agrees = true ↔
      report.recursive = report.forLoop ∧ report.recursive = report.whileLoop := by
  simp [agrees]

/-- The report as an object with an entry for each result and one for the verdict. -/
def toJson (report : Report) : Json :=
  .object
    [("input", .integer report.input.toInt),
     ("recursive", .integer report.recursive.toNat),
     ("for_loop", .integer report.forLoop.toNat),
     ("while_loop", .integer report.whileLoop.toNat),
     ("agrees", .bool report.agrees)]

/-- The report as one line of JSON. -/
def json (report : Report) : String :=
  report.toJson.compact

end Report

end FactorialCheck
