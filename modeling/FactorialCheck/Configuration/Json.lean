import FactorialCheck.Configuration
import FactorialCheck.Json.Mismatch

/-!
# Configurations in JSON

A configuration is written as an object with the key `input`, or as an array of
the input alone.
-/

namespace FactorialCheck.Configuration

/-- The 64-bit integer that a value writes. -/
def inputOfJson (json : Json) : Except Json.Mismatch Int64 :=
  match json with
  | .integer n =>
    if Int64.minValue.toInt ≤ n ∧ n ≤ Int64.maxValue.toInt then .ok (Int64.ofInt n)
    else if Json.fitsWord n then .error (.unfit json "i64")
    else .error (.wrongKind json "i64")
  | _ => .error (.wrongKind json "i64")

def ofJson (json : Json) : Except Json.Mismatch Configuration :=
  match json with
  | .object entries =>
    match Json.entry? entries "input" with
    | none => .error (.missingField "input")
    | some value => (inputOfJson value).map Configuration.mk
  | .array [] => .error (.length 0 "struct DriverConfig with 1 element")
  | .array (first :: more) => do
    let input ← inputOfJson first
    if more.isEmpty then .ok ⟨input⟩
    else .error (.length (more.length + 1) "fewer elements in array")
  | _ => .error (.wrongKind json "struct DriverConfig")

end FactorialCheck.Configuration
