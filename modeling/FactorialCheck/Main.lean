import FactorialCheck.Environment.Block
import FactorialCheck.Program
import Std.Time.Format

/-!
# The executable

Everything that touches the outside is here: the variables of the process, the
clock, and the two output streams.
-/

namespace FactorialCheck.Main

/-- The variables that matter, for systems that do not list them all. -/
def namedEnvironment : IO Environment := do
  let mut env := Environment.empty
  for name in [Configuration.inputVariable, Program.filterVariable] do
    if let some value ← IO.getEnv name then
      env := env.set name value
  return env

/-- The variables of the process in their order. -/
def environment : IO Environment := do
  try
    match String.fromUTF8? (← IO.FS.readBinFile "/proc/self/environ") with
    | some block => return .ofBlock block
    | none => namedEnvironment
  catch _ =>
    namedEnvironment

/-- The present time, which stands in front of every log line of a run. -/
def stamp : IO String := do
  let now ← Std.Time.DateTime.now
  return now.format "uuuu-MM-dd'T'HH:mm:ss.SSSSSSSSSxxx" ++ " "

end FactorialCheck.Main

open FactorialCheck in
def main (words : List String) : IO UInt32 := do
  let (outcome, _) := Program.run (← Main.stamp) words (← Main.environment)
  IO.print outcome.stdout
  IO.eprint outcome.stderr
  if outcome.status = .usage then
    IO.eprintln ""
  return outcome.status.code
