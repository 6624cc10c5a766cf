import FactorialCheck.Proofs.Agreement
import FactorialCheck.Proofs.Outcomes
import FactorialCheck.Proofs.ReportText

/-!
# The line of the report

A check that shows its report puts one line before the verdict. In all else it is
the check that shows the verdict alone.
-/

namespace FactorialCheck.Program

open CommandLine

/-- How a check with its report answers, beside the same check without it. -/
structure AddsReport (env : Environment) (input : Option Int64)
    (detailed plain : Traced ProgramError String) : Prop where
  events_eq : detailed.events = plain.events
  result_cases :
    (∃ n report, checkInput env input = .ok n ∧ (check n).result = .ok report ∧
      plain.result = .ok report.announcement ∧
      detailed.result = .ok (report.json ++ "\n" ++ report.announcement)) ∨
    ∃ error, plain.result = .error error ∧ detailed.result = .error error

theorem addsReport_answerTo (env : Environment) (input : Option Int64) :
    AddsReport env input (answerTo env (.check input true))
      (answerTo env (.check input false)) := by
  cases hinput : checkInput env input with
  | error error =>
    rw [answerTo_check_of_error true hinput, answerTo_check_of_error false hinput]
    exact ⟨rfl, .inr ⟨_, rfl, rfl⟩⟩
  | ok n =>
    rw [answerTo_check_of_ok true hinput, answerTo_check_of_ok false hinput]
    refine ⟨rfl, ?_⟩
    cases hcheck : (check n).result with
    | error failure =>
      rw [checkAnswer, checkAnswer, hcheck]
      exact .inr ⟨_, rfl, rfl⟩
    | ok report =>
      rw [checkAnswer, checkAnswer, hcheck]
      refine .inl ⟨n, report, hinput, hcheck, ?_, rfl⟩
      exact congrArg Except.ok String.empty_append

/-- Either the two outcomes differ by the report alone, or they are the same. -/
theorem AddsReport.outcome_cases {env : Environment} {input : Option Int64}
    {detailed plain : Traced ProgramError String} (h : AddsReport env input detailed plain)
    (stamp : String) (filter : Except Log.Halt Log.Filter) :
    let plainOutcome := outcomeBehind stamp plain filter
    (plainOutcome.status = .success ∧ ∃ n report, checkInput env input = .ok n ∧
      (check n).result = .ok report ∧
      outcomeBehind stamp detailed filter =
        { plainOutcome with stdout := report.json ++ "\n" ++ plainOutcome.stdout }) ∨
    (plainOutcome.status ≠ .success ∧ plainOutcome.stdout = "" ∧
      outcomeBehind stamp detailed filter = plainOutcome) := by
  intro plainOutcome
  cases filter with
  | error halt => exact .inr ⟨status_halted_ne_success halt, stdout_halted halt, rfl⟩
  | ok filter =>
    simp only [plainOutcome, outcomeBehind]
    rcases h.result_cases with
      ⟨n, report, hinput, hcheck, hplain, hdetailed⟩ | ⟨error, hplain, hdetailed⟩
    · rw [outcomeOf_of_ok _ hplain, outcomeOf_of_ok _ hdetailed, h.events_eq]
      exact .inl ⟨rfl, n, report, hinput, hcheck, rfl⟩
    · rw [outcomeOf_of_error _ hplain, outcomeOf_of_error _ hdetailed, h.events_eq]
      exact .inr ⟨by rintro ⟨⟩, rfl, rfl⟩

theorem environmentBehind_json (env : Environment) (input : Option Int64)
    (filter : Except Log.Halt Log.Filter) :
    environmentBehind env (.check input true) filter =
      environmentBehind env (.check input false) filter := by
  cases filter with
  | error halt => rfl
  | ok filter => cases input <;> rfl

/--
A check with `--json` and the same check without it, in the same environment. They
have the same exit status, tell the same on the standard error and leave the same
environment. If they succeed, the one shows the report on the input as a line of its
own and then all that the other shows; if not, both show nothing.
-/
theorem json_adds_report_line {words words' : List String} {verbose : Nat}
    {command : Option Command} {input : Option Int64}
    (hplain : parse words = .ok ⟨verbose, command⟩)
    (hcommand : command.getD (.check none false) = .check input false)
    (hdetailed : parse words' = .ok ⟨verbose, some (.check input true)⟩)
    (stamp : String) (env : Environment) :
    let plain := run stamp words env
    let detailed := run stamp words' env
    detailed.1.status = plain.1.status ∧ detailed.1.stderr = plain.1.stderr ∧
    detailed.2 = plain.2 ∧
    (plain.1.status = .success → ∃ n report, checkInput env input = .ok n ∧
      (check n).result = .ok report ∧ '\n' ∉ report.json.toList ∧
      detailed.1.stdout = report.json ++ "\n" ++ plain.1.stdout) ∧
    (plain.1.status ≠ .success → detailed.1.stdout = "" ∧ plain.1.stdout = "") := by
  intro plain detailed
  have hplainOutcome : plain.1 = _ := outcome_of_parse hplain
  have hdetailedOutcome : detailed.1 = _ := outcome_of_parse hdetailed
  have hplainEnvironment : plain.2 = _ := environment_of_parse hplain
  have hdetailedEnvironment : detailed.2 = _ := environment_of_parse hdetailed
  rw [hcommand] at hplainOutcome hplainEnvironment
  rw [hplainOutcome, hdetailedOutcome, hplainEnvironment, hdetailedEnvironment,
    Option.getD_some]
  rcases (addsReport_answerTo env input).outcome_cases stamp (filterOf verbose env) with
    ⟨hsuccess, n, report, hinput, hcheck, hadds⟩ | ⟨hfailure, hnothing, hsame⟩
  · rw [hadds]
    refine ⟨rfl, rfl, environmentBehind_json .., fun _ => ?_, fun hfailure => ?_⟩
    · exact ⟨n, report, hinput, hcheck, report.newline_not_mem_json, rfl⟩
    · exact absurd hsuccess hfailure
  · rw [hsame]
    refine ⟨rfl, rfl, environmentBehind_json .., fun hsuccess => ?_, fun _ => ?_⟩
    · exact absurd hsuccess hfailure
    · exact ⟨hnothing, hnothing⟩

/-- The bare program beside a check with `--json`, at the last input that succeeds. -/
theorem json_adds_report_line_to_bare_run :
    let env := Environment.ofList [⟨"FACT_DRIVER_INPUT", "20"⟩, ⟨"RUST_LOG", "debug"⟩]
    let plain := run "" ["-v"] env
    let detailed := run "" ["check", "--json", "-v"] env
    parse ["-v"] = .ok ⟨1, none⟩ ∧
    parse ["check", "--json", "-v"] = .ok ⟨1, some (.check none true)⟩ ∧
    plain.1.status = .success ∧ detailed.1.stderr = plain.1.stderr ∧
    detailed.1.stdout = (factorialReport 20).json ++ "\n" ++ plain.1.stdout := by
  intro env plain detailed
  have hplain : parse ["-v"] = .ok ⟨1, none⟩ := rfl
  have hdetailed : parse ["check", "--json", "-v"] = .ok ⟨1, some (.check none true)⟩ := rfl
  have hstands : Configuration.Stands (some "20") env := .inl rfl
  have hload : (Configuration.load env).1 = .ok ⟨20⟩ := hstands.load
  have hinput : checkInput env none = .ok 20 := checkInput_of_load hload
  have hcheck : (check 20).result = .ok (factorialReport 20) :=
    congrArg Traced.result (check_of_fits (by decide) (by decide))
  have hvalid : ValidFilter env := by decide
  have hsuccess : plain.1.status = .success := by
    obtain ⟨filter, hfilter⟩ := exists_filterOf hvalid 1
    have houtcome : plain.1 = _ := outcome_of_parse hplain
    rw [houtcome, hfilter, Option.getD_none, answerTo_check_of_ok false hinput, checkAnswer,
      hcheck]
    rfl
  obtain ⟨-, hstderr, -, hreport, -⟩ := json_adds_report_line hplain rfl hdetailed "" env
  obtain ⟨n, report, hn, hresult, -, hstdout⟩ := hreport hsuccess
  rw [hinput] at hn
  cases hn
  rw [hcheck] at hresult
  cases hresult
  exact ⟨hplain, hdetailed, hsuccess, hstderr, hstdout⟩

end FactorialCheck.Program
