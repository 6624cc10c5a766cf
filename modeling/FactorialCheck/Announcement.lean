import FactorialCheck.Check
import FactorialCheck.Writing

/-!
# Announcements

The verdict of a check, or `Nothing`, written as one line.
-/

namespace FactorialCheck

section Writer

variable {σ : Type} [Writer σ]

/-- Checks `n` and writes the verdict; a check that fails writes nothing. -/
def writeVerdict (n : Int64) : Writing σ Failure Report := do
  let report ← .ofTraced (check n)
  .writeLine report.message
  pure report

def writeNothing : Writing σ Failure Unit :=
  .writeLine "Nothing"

end Writer

/-- Writes the verdict on `n` to a sink. -/
def announce (n : Int64) (sink : Sink) : Traced Failure Report × Sink :=
  writeVerdict n sink

def announceNothing (sink : Sink) : Except Failure Unit × Sink :=
  let (written, sink) := writeNothing sink
  (written.result, sink)

end FactorialCheck
