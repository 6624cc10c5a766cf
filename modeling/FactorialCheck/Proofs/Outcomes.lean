import FactorialCheck.Proofs.Answers
import FactorialCheck.Proofs.Filters
import FactorialCheck.Proofs.Loading

/-!
# Outcomes

A run that comes to its command has an outcome made of the answer to the command:
the result decides on the exit status, on the text that is shown and on the error
that is told, and the filter on the log lines before it.
-/

namespace FactorialCheck.Program

open CommandLine

/-! ## The parts of an outcome -/

def statusOf : Except ProgramError String → Status
  | .ok _ => .success
  | .error _ => .failure

def stdoutOf : Except ProgramError String → String
  | .ok text => text
  | .error _ => ""

/-- The lines in which an error is told, and none without an error. -/
def errorBlock : Except ProgramError String → String
  | .ok _ => ""
  | .error error => error.render

/-- What comes of an answer. -/
def outcomeOf (log : List Log.Event → String) (answer : Traced ProgramError String) : Outcome :=
  ⟨statusOf answer.result, stdoutOf answer.result,
    log answer.events ++ errorBlock answer.result⟩

/-- What comes of an answer if there is a filter, and of the lack of one. -/
def outcomeBehind (stamp : String) (answer : Traced ProgramError String) :
    Except Log.Halt Log.Filter → Outcome
  | .ok filter => outcomeOf (logText stamp filter) answer
  | .error halt => halted halt

/-- The environment that a command leaves, or the one before if there is no filter. -/
def environmentBehind (env : Environment) (command : Command) :
    Except Log.Halt Log.Filter → Environment
  | .ok _ => (perform env command).2
  | .error _ => env

section Outcome

variable (log : List Log.Event → String) {answer : Traced ProgramError String}

theorem outcomeOf_of_ok {text : String} (h : answer.result = .ok text) :
    outcomeOf log answer = ⟨.success, text, log answer.events⟩ := by
  rw [outcomeOf, h]
  exact congrArg (Outcome.mk _ _) String.append_empty

theorem outcomeOf_of_error {error : ProgramError} (h : answer.result = .error error) :
    outcomeOf log answer = ⟨.failure, "", log answer.events ++ error.render⟩ := by
  rw [outcomeOf, h]
  rfl

theorem stdout_halted (halt : Log.Halt) : (halted halt).stdout = "" := by
  cases halt <;> rfl

theorem status_halted_ne_success (halt : Log.Halt) : (halted halt).status ≠ .success := by
  cases halt <;> rintro ⟨⟩

theorem conclude_eq_outcomeOf (env : Environment) (command : Command) :
    conclude log (perform env command).1 = outcomeOf log (answerTo env command) := by
  rw [conclude_perform]
  cases hanswer : (answerTo env command).result with
  | ok text => exact (outcomeOf_of_ok log hanswer).symm
  | error error => exact (outcomeOf_of_error log hanswer).symm

end Outcome

/-- An error is told exactly if the run fails. -/
theorem errorBlock_cases (result : Except ProgramError String) :
    statusOf result = .success ∧ errorBlock result = "" ∨
    statusOf result = .failure ∧ ∃ error : ProgramError, errorBlock result = error.render := by
  cases result with
  | ok text => exact .inl ⟨rfl, rfl⟩
  | error error => exact .inr ⟨rfl, error, rfl⟩

section Run

variable {stamp : String} {words : List String} {env : Environment} {invocation : Invocation}
  {read : Log.Reader}

/-- Beside the filter the outcome depends on the answer alone. -/
theorem outcome_of_parse (h : parse words = .ok invocation) :
    (run stamp words env read).1 =
      outcomeBehind stamp (answerTo env (invocation.command.getD (.check none false)))
        (filterOf invocation.verbose env read) := by
  cases hfilter : filterOf invocation.verbose env read with
  | error halt =>
    rw [run_of_halt h hfilter]
    rfl
  | ok filter =>
    rw [run_of_filter h hfilter]
    exact conclude_eq_outcomeOf ..

theorem environment_of_parse (h : parse words = .ok invocation) :
    (run stamp words env read).2 =
      environmentBehind env (invocation.command.getD (.check none false))
        (filterOf invocation.verbose env read) := by
  cases hfilter : filterOf invocation.verbose env read with
  | error halt =>
    rw [run_of_halt h hfilter]
    rfl
  | ok filter =>
    rw [run_of_filter h hfilter]
    rfl

end Run

/-! ## What a command takes from the environment -/

section Environment

variable {env other : Environment}

theorem checkInput_congr (h : (Configuration.load other).1 = (Configuration.load env).1)
    (input : Option Int64) : checkInput other input = checkInput env input := by
  cases input with
  | some n => rfl
  | none => rw [checkInput, checkInput, h]

/-- Nothing but the configuration is taken from the environment. -/
theorem answerTo_congr (h : (Configuration.load other).1 = (Configuration.load env).1)
    (command : Command) : answerTo other command = answerTo env command := by
  cases command with
  | check input json => exact answerTo_check_congr json (checkInput_congr h input)
  | eval strategy n => rfl
  | nothing => rfl

variable {command : Command} (hgiven : ∀ json, command ≠ .check none json)
include hgiven

end Environment

theorem perform_unset {name : String} (env : Environment) (h : name ≠ "FACT_DRIVER_INPUT")
    (command : Command) :
    (perform (env.unset name) command).2 = (perform env command).2.unset name := by
  cases command with
  | check input json =>
    cases input with
    | some n => rfl
    | none => exact Configuration.install_unset env h
  | eval strategy n => rfl
  | nothing => rfl

end FactorialCheck.Program
