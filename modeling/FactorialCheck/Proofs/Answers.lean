import FactorialCheck.Program

/-!
# Answers

A command logs events and either fails or shows one text as a whole. The answer
to a command is both together, as a function of the command and the environment.
-/

namespace FactorialCheck

/-- The line that announces the verdict of a report. -/
def Report.announcement (report : Report) : String :=
  report.message ++ "\n"

namespace Program

open CommandLine

/-! ## What the commands show -/

/-- The text that a check shows of its report. -/
def reportText (json : Bool) (report : Report) : String :=
  (if json then report.json ++ "\n" else "") ++ report.announcement

section Commands

variable {n : Int64} {strategy : Strategy} (json : Bool) (console : Console)

theorem writeVerdict_of_ok {report : Report} (h : (check n).result = .ok report) :
    writeVerdict n console =
      (⟨(check n).events, .ok report⟩, ⟨console.text ++ report.announcement⟩) := by
  rw [writeVerdict, Writing.ofTraced_bind_ok h, Writing.writeLine_bind_console]
  exact congrArg (fun events => (Traced.mk events _, _)) (List.append_nil _)

theorem writeVerdict_of_error {failure : Failure} (h : (check n).result = .error failure) :
    writeVerdict n console = (⟨(check n).events, .error failure⟩, console) := by
  rw [writeVerdict, Writing.ofTraced_bind_error h]

theorem showCheck_of_ok {report : Report} (h : (check n).result = .ok report) :
    showCheck n json console =
      (⟨(check n).events, .ok ()⟩, ⟨console.text ++ reportText json report⟩) := by
  cases json with
  | false =>
    rw [showCheck, if_neg Bool.false_ne_true, Writing.discard_ok (writeVerdict_of_ok console h)]
    simp [reportText]
  | true =>
    rw [showCheck, if_pos rfl, showReport, Writing.ofTraced_bind_ok h]
    simp [reportText, Report.announcement, String.append_assoc]

theorem showCheck_of_error {failure : Failure} (h : (check n).result = .error failure) :
    showCheck n json console = (⟨(check n).events, .error failure⟩, console) := by
  cases json with
  | false =>
    rw [showCheck, if_neg Bool.false_ne_true,
      Writing.discard_error (writeVerdict_of_error console h)]
  | true =>
    rw [showCheck, if_pos rfl, showReport, Writing.ofTraced_bind_error h]

theorem showValue_of_ok {value : UInt64} (h : (evaluate strategy n).result = .ok value) :
    showValue strategy n console =
      (⟨(evaluate strategy n).events, .ok ()⟩,
       ⟨console.text ++ (Numeral.ofResult value ++ "\n")⟩) := by
  rw [showValue, Writing.ofTraced_bind_ok h]
  simp

theorem showValue_of_error {failure : Failure}
    (h : (evaluate strategy n).result = .error failure) :
    showValue strategy n console = (⟨(evaluate strategy n).events, .error failure⟩, console) := by
  rw [showValue, Writing.ofTraced_bind_error h]

end Commands

/-! ## Commands as a whole -/

/-- The input of a check: the one given, or else that of the configuration. -/
def checkInput (env : Environment) : Option Int64 → Except ConfigurationError Int64
  | some n => .ok n
  | none => (Configuration.load env).1.map Configuration.input

section Input

variable {env : Environment}

theorem checkInput_of_load {configuration : Configuration}
    (h : (Configuration.load env).1 = .ok configuration) :
    checkInput env none = .ok configuration.input := by
  rw [checkInput, h]
  rfl

theorem checkInput_of_load_error {error : ConfigurationError}
    (h : (Configuration.load env).1 = .error error) : checkInput env none = .error error := by
  rw [checkInput, h]
  rfl

end Input

/-- What a check of `n` logs, and the text it shows if it succeeds. -/
def checkAnswer (n : Int64) (json : Bool) : Traced ProgramError String :=
  ⟨(check n).events,
    ((check n).result.map (reportText json)).mapError .computation⟩

/-- What a command logs, and the text it shows if it succeeds. -/
def answerTo (env : Environment) : Command → Traced ProgramError String
  | .check input json =>
    match checkInput env input with
    | .ok n => checkAnswer n json
    | .error error => ⟨[], .error (.configuration error)⟩
  | .eval strategy n =>
    ⟨(evaluate strategy n).events,
      ((evaluate strategy n).result.map fun value => Numeral.ofResult value ++ "\n").mapError
        .computation⟩
  | .nothing => ⟨[], .ok "Nothing\n"⟩

theorem answerTo_check_of_ok {env : Environment} {input : Option Int64} {n : Int64}
    (json : Bool) (h : checkInput env input = .ok n) :
    answerTo env (.check input json) = checkAnswer n json := by
  rw [answerTo, h]

theorem answerTo_check_of_error {env : Environment} {input : Option Int64}
    {error : ConfigurationError} (json : Bool) (h : checkInput env input = .error error) :
    answerTo env (.check input json) = ⟨[], .error (.configuration error)⟩ := by
  rw [answerTo, h]

/-- Once the input is known it makes no difference where it came from. -/
theorem answerTo_check_congr {env env' : Environment} {input input' : Option Int64}
    (json : Bool) (h : checkInput env' input' = checkInput env input) :
    answerTo env' (.check input' json) = answerTo env (.check input json) := by
  rw [answerTo, answerTo, h]

/-- The text of an answer is shown as a whole or not at all. -/
def shown (answer : Traced ProgramError String) (console : Console) :
    Traced ProgramError Unit × Console :=
  match answer.result with
  | .ok text => (⟨answer.events, .ok ()⟩, ⟨console.text ++ text⟩)
  | .error error => (⟨answer.events, .error error⟩, console)

theorem showCheck_apply (n : Int64) (json : Bool) (console : Console) :
    (showCheck n json).mapError .computation console = shown (checkAnswer n json) console := by
  cases h : (check n).result with
  | ok report =>
    rw [Writing.mapError_apply, showCheck_of_ok json console h, shown, checkAnswer, h]
    rfl
  | error failure =>
    rw [Writing.mapError_apply, showCheck_of_error json console h, shown, checkAnswer, h]
    rfl

theorem showValue_apply (env : Environment) (strategy : Strategy) (n : Int64)
    (console : Console) :
    (showValue strategy n).mapError .computation console =
      shown (answerTo env (.eval strategy n)) console := by
  cases h : (evaluate strategy n).result with
  | ok value =>
    rw [Writing.mapError_apply, showValue_of_ok console h, shown, answerTo, h]
    rfl
  | error failure =>
    rw [Writing.mapError_apply, showValue_of_error console h, shown, answerTo, h]
    rfl

theorem showConfigured_apply (env : Environment) (json : Bool) (console : Console) :
    showConfigured (Configuration.load env).1 json console =
      shown (answerTo env (.check none json)) console := by
  cases h : (Configuration.load env).1 with
  | ok configuration =>
    rw [answerTo_check_of_ok json (checkInput_of_load h), ← showCheck_apply]
    rfl
  | error error =>
    rw [answerTo_check_of_error json (checkInput_of_load_error h)]
    rfl

/-- No command leaves a part of its text behind. -/
theorem perform_apply (env : Environment) (command : Command) (console : Console) :
    (perform env command).1 console = shown (answerTo env command) console := by
  cases command with
  | check input json =>
    cases input with
    | some n => exact showCheck_apply n json console
    | none =>
      rw [perform]
      exact showConfigured_apply env json console
  | eval strategy n => exact showValue_apply env strategy n console
  | nothing =>
    simp only [perform, writeNothing, Writing.mapError_apply, Writing.writeLine_console]
    rfl

theorem conclude_perform (log : List Log.Event → String) (env : Environment)
    (command : Command) :
    conclude log (perform env command).1 =
      match (answerTo env command).result with
      | .ok text => ⟨.success, text, log (answerTo env command).events⟩
      | .error error =>
        ⟨.failure, "", log (answerTo env command).events ++ error.render⟩ := by
  rw [conclude, perform_apply, shown]
  cases (answerTo env command).result with
  | ok text => exact congrArg (Outcome.mk _ · _) (String.empty_append)
  | error error => rfl

/-! ## The stages of a run -/

section Run

variable {stamp : String} {words : List String} {env : Environment} {read : Log.Reader}

theorem run_of_stop {stop : Stop} (h : parse words = .error stop) :
    run stamp words env read = (stopped stop, env) := by
  rw [run, h]

theorem run_of_halt {invocation : Invocation} {halt : Log.Halt}
    (h : parse words = .ok invocation)
    (hfilter : filterOf invocation.verbose env read = .error halt) :
    run stamp words env read = (halted halt, env) := by
  simp only [run, h, hfilter]

theorem run_of_filter {invocation : Invocation} {filter : Log.Filter}
    (h : parse words = .ok invocation)
    (hfilter : filterOf invocation.verbose env read = .ok filter) :
    run stamp words env read =
      (conclude (logText stamp filter)
        (perform env (invocation.command.getD (.check none false))).1,
       (perform env (invocation.command.getD (.check none false))).2) := by
  simp only [run, h, hfilter]

end Run

end Program

end FactorialCheck
