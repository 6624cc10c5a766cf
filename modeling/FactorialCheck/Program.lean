import FactorialCheck.Announcement
import FactorialCheck.CommandLine.Help
import FactorialCheck.CommandLine.Parse
import FactorialCheck.Configuration
import FactorialCheck.Log.Filter

/-!
# The program

A run reads the command line, sets up the log filter and carries out the
command, in this order; each stage may end it. The reader of filter texts belongs
to a library, and a run is one with any such reader.
-/

namespace FactorialCheck

inductive ProgramError where
  | filter (error : Log.FilterError)
  | configuration (error : ConfigurationError)
  | computation (failure : Failure)
  deriving DecidableEq, Repr

namespace ProgramError

/-- The message of an error, and those of what it was caused by. -/
def messages : ProgramError → String × List String
  | .filter error => (error.message, error.message :: error.reasons)
  | .configuration error =>
    ("failed to load driver configuration", [error.message, error.reason])
  | .computation failure => (failure.message, [])

/-- The lines of a cause, those after the first in line with the text of the first. -/
def causeParagraph (margin cause : String) : List String :=
  let indent := String.ofList (List.replicate margin.length ' ')
  (pieces '\n' cause.toList).mapIdx fun i line =>
    (if i = 0 then margin else indent) ++ String.ofList line

/-- The causes as lines, numbered if there are more than one. -/
def causeLines (causes : List String) : List String :=
  match causes with
  | [] => []
  | [cause] => "" :: "Caused by:" :: causeParagraph "    " cause
  | causes =>
    let paragraphs := causes.mapIdx fun i cause =>
      causeParagraph ("    " ++ i.repr ++ ": ") cause
    "" :: "Caused by:" :: paragraphs.flatten

/-- The error as it is shown. -/
def render (error : ProgramError) : String :=
  let (message, causes) := error.messages
  unlines (("Error: " ++ message) :: causeLines causes)

end ProgramError

inductive Status where
  | success
  | failure
  | usage
  /-- The program was aborted by a library. -/
  | aborted
  deriving DecidableEq, Repr

def Status.code : Status → UInt32
  | .success => 0
  | .failure => 1
  | .usage => 2
  | .aborted => 101

structure Outcome where
  status : Status
  stdout : String
  stderr : String
  deriving DecidableEq, Repr

namespace Program

open CommandLine

/-- The outcome of a command line without a command to run. -/
def stopped : Stop → Outcome
  | .help page => ⟨.success, page.text, ""⟩
  | .version => ⟨.success, version, ""⟩
  | .mistake mistake => ⟨.usage, "", mistake.message⟩

/-- The variable that sets the log filter. -/
def filterVariable : String := "RUST_LOG"

/-- The text that sets the filter, which is empty where there is none. -/
def filterText (env : Environment) : String :=
  (env.get? filterVariable).getD ""

/-- The filter that the environment sets, or else the verbosity asked for. -/
def filterOf (verbose : Nat) (env : Environment) (read : Log.Reader := Log.Filter.ofText) :
    Except Log.Halt Log.Filter :=
  read (.ofVerbosity verbose) (filterText env)

/--
The outcome of a run that gets no filter. What an aborted run tells of itself is left
out: it names lines of the library.
-/
def halted : Log.Halt → Outcome
  | .refused error => ⟨.failure, "", (ProgramError.filter error).render⟩
  | .aborted => ⟨.aborted, "", ""⟩

/-- Shows the report of a check as a line of JSON, and then the verdict. -/
def showReport (n : Int64) : Writing Console Failure Unit := do
  let report ← .ofTraced (check n)
  .writeLine report.json
  .writeLine report.message

def showCheck (n : Int64) (json : Bool) : Writing Console Failure Unit :=
  if json then showReport n
  else discard (writeVerdict n)

def showValue (strategy : Strategy) (n : Int64) : Writing Console Failure Unit := do
  let value ← .ofTraced (evaluate strategy n)
  .writeLine (Numeral.ofResult value)

/-- Shows the check of the configured input, if the configuration could be loaded. -/
def showConfigured (loaded : Except ConfigurationError Configuration) (json : Bool) :
    Writing Console ProgramError Unit := do
  let configuration ← .ofTraced (.ofExcept (loaded.mapError .configuration))
  (showCheck configuration.input json).mapError .computation

/--
What a command shows, and the environment after it. Only a check without an
input reads and changes the environment.
-/
def perform (env : Environment) : Command → Writing Console ProgramError Unit × Environment
  | .check (some n) json => ((showCheck n json).mapError .computation, env)
  | .check none json =>
    let (loaded, env) := Configuration.load env
    (showConfigured loaded json, env)
  | .eval strategy n => ((showValue strategy n).mapError .computation, env)
  | .nothing => (writeNothing.mapError .computation, env)

/-- The lines of the events that a filter admits. -/
def logText (stamp : String) (filter : Log.Filter) (events : List Log.Event) : String :=
  unlines ((events.filter filter.admits).map fun event => stamp ++ event.line)

/-- The outcome of a command. -/
def conclude (log : List Log.Event → String) (command : Writing Console ProgramError Unit) :
    Outcome :=
  let (performed, console) := command ⟨""⟩
  match performed.result with
  | .ok () => ⟨.success, console.text, log performed.events⟩
  | .error error => ⟨.failure, console.text, log performed.events ++ error.render⟩

/-- Runs the program; `stamp` is put before each log line. A check is run by default. -/
def run (stamp : String) (words : List String) (env : Environment)
    (read : Log.Reader := Log.Filter.ofText) : Outcome × Environment :=
  match parse words with
  | .error stop => (stopped stop, env)
  | .ok invocation =>
    match filterOf invocation.verbose env read with
    | .error halt => (halted halt, env)
    | .ok filter =>
      let (command, env) := perform env (invocation.command.getD (.check none false))
      (conclude (logText stamp filter) command, env)

end Program

end FactorialCheck
