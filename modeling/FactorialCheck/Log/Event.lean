import FactorialCheck.Log.Level
import FactorialCheck.Report
import FactorialCheck.Strategy

/-!
# Events

What is logged in the course of a check and of an evaluation.
-/

namespace FactorialCheck.Log

inductive Event where
  /-- A check has one of its three results. -/
  | computed (strategy : Strategy) (n : Int64) (value : UInt64)
  /-- A check is complete. -/
  | finished (report : Report)
  /-- A single strategy was evaluated. -/
  | evaluated (strategy : Strategy) (n : Int64) (value : UInt64)
  deriving DecidableEq, Repr

namespace Event

def level : Event → Level
  | .computed .. => .debug
  | .finished _ => .info
  | .evaluated .. => .debug

/-- The part of the program an event comes from. -/
def target : Event → String
  | .computed .. => "fact_core::driver"
  | .finished _ => "fact_core::driver"
  | .evaluated .. => "fact_core::factorial"

def message : Event → String
  | .computed .recursive .. => "recursive"
  | .computed .forLoop .. => "for loop"
  | .computed .whileLoop .. => "while loop"
  | .finished _ => "agreement check finished"
  | .evaluated .. => "evaluated"

/-- Names and values of what an event reports. -/
def fields : Event → List (String × String)
  | .computed _ n value => [("n", Numeral.ofInput n), ("value", Numeral.ofResult value)]
  | .finished report =>
    [("n", Numeral.ofInput report.input),
     ("recursive", Numeral.ofResult report.recursive),
     ("for_loop", Numeral.ofResult report.forLoop),
     ("while_loop", Numeral.ofResult report.whileLoop),
     ("agrees", if report.agrees then "true" else "false")]
  | .evaluated strategy n value =>
    [("strategy", strategy.name), ("n", Numeral.ofInput n), ("value", Numeral.ofResult value)]

/-- Names of all fields, of which the message is the first. -/
def fieldNames (event : Event) : List String :=
  "message" :: event.fields.map Prod.fst

/-- The log line of an event, without a time stamp. -/
def line (event : Event) : String :=
  event.level.label ++ " " ++ event.target ++ ": " ++ event.message
    ++ String.join (event.fields.map fun (name, value) => " " ++ name ++ "=" ++ value)

end Event

end FactorialCheck.Log
