import FactorialCheck.Proofs.Outcomes

/-!
# Logging and results

The verbosity and the filter text decide on the log lines and on nothing else: two
runs of one command that differ in them alone show the same and fail alike.
-/

namespace FactorialCheck.Program

open CommandLine

/--
Two outcomes that differ in their log lines alone. Each has the lines of the same
events, in its own way, and after them the same error, if there is one.
-/
structure SameApartFromLog (log log' : List Log.Event → String) (first second : Outcome) :
    Prop where
  status_eq : first.status = second.status
  stdout_eq : first.stdout = second.stdout
  stderr_eq : ∃ events block, first.stderr = log events ++ block ∧
    second.stderr = log' events ++ block ∧
    (first.status = .success ∧ block = "" ∨
      first.status = .failure ∧ ∃ error : ProgramError, block = error.render)

/-- One answer has one outcome, whatever is logged of it. -/
theorem sameApartFromLog_outcomeOf (log log' : List Log.Event → String)
    (answer : Traced ProgramError String) :
    SameApartFromLog log log' (outcomeOf log answer) (outcomeOf log' answer) where
  status_eq := rfl
  stdout_eq := rfl
  stderr_eq :=
    ⟨answer.events, errorBlock answer.result, rfl, rfl, errorBlock_cases answer.result⟩

section Environment

variable {env env' : Environment} (h : env.unset "RUST_LOG" = env'.unset "RUST_LOG")
include h

/-- The variable of the filter is no part of the configuration. -/
theorem load_eq_of_unset_eq : (Configuration.load env).1 = (Configuration.load env').1 := by
  have hspells : Configuration.spellsInput "RUST_LOG" = false := by decide
  rw [← Configuration.load_unset env hspells, h, Configuration.load_unset env' hspells]

theorem perform_environment_of_unset_eq (command : Command) :
    (perform env command).2.unset "RUST_LOG" = (perform env' command).2.unset "RUST_LOG" := by
  have hother : "RUST_LOG" ≠ "FACT_DRIVER_INPUT" := by decide
  rw [← perform_unset env hother, h, perform_unset env' hother]

end Environment

/--
Two command lines with the same command, whatever verbosity they ask for, in two
environments that differ in `RUST_LOG` alone, which is missing or valid in each. The
runs have the same exit status, show the same, and tell the same error after their
log lines; but for `RUST_LOG` they leave the same environment. And where `RUST_LOG`
has a directive, valid or not, the verbosity has no effect at all.
-/
theorem logging_does_not_interfere {words words' : List String} {first second : Invocation}
    (hparse : parse words = .ok first) (hparse' : parse words' = .ok second)
    (hcommand :
      first.command.getD (.check none false) = second.command.getD (.check none false)) :
    (∀ (stamp stamp' : String) (env env' : Environment),
      env.unset "RUST_LOG" = env'.unset "RUST_LOG" → ValidFilter env → ValidFilter env' →
      (∃ filter filter', filterOf first.verbose env = .ok filter ∧
        filterOf second.verbose env' = .ok filter' ∧
        SameApartFromLog (logText stamp filter) (logText stamp' filter')
          (run stamp words env).1 (run stamp' words' env').1) ∧
      (run stamp words env).2.unset "RUST_LOG" = (run stamp' words' env').2.unset "RUST_LOG") ∧
    (∀ (stamp : String) (env : Environment) (text : String),
      env.get? "RUST_LOG" = some text → Log.Filter.directives text ≠ [] →
      run stamp words env = run stamp words' env) := by
  constructor
  · intro stamp stamp' env env' henv hvalid hvalid'
    obtain ⟨filter, hfilter⟩ := exists_filterOf hvalid first.verbose
    obtain ⟨filter', hfilter'⟩ := exists_filterOf hvalid' second.verbose
    refine ⟨⟨filter, filter', hfilter, hfilter', ?_⟩, ?_⟩
    -- One answer stands behind both outcomes: the command and the configuration are the same.
    · rw [outcome_of_parse hparse, outcome_of_parse hparse', hfilter, hfilter', ← hcommand,
        answerTo_congr (load_eq_of_unset_eq henv)]
      exact sameApartFromLog_outcomeOf ..
    · rw [environment_of_parse hparse, environment_of_parse hparse', hfilter, hfilter',
        ← hcommand]
      exact perform_environment_of_unset_eq henv _
  · intro stamp env text hget hdirectives
    have hfilter := filterOf_of_directives hget hdirectives first.verbose second.verbose
    apply Prod.ext
    · rw [outcome_of_parse hparse, outcome_of_parse hparse', hcommand, hfilter]
    · rw [environment_of_parse hparse, environment_of_parse hparse', hcommand, hfilter]

/-- A filter that admits some of what a check logs, against the verbosity alone. -/
theorem logging_does_not_interfere_with_check :
    let words := ["-v", "check", "--json"]
    let words' := ["check", "--json", "-vv"]
    let env := Environment.ofList
      [⟨"RUST_LOG", "off,fact_core::driver=info"⟩, ⟨"FACT_DRIVER_INPUT", "+03"⟩]
    let env' := Environment.ofList [⟨"FACT_DRIVER_INPUT", "+03"⟩]
    parse words = .ok ⟨1, some (.check none true)⟩ ∧
    parse words' = .ok ⟨2, some (.check none true)⟩ ∧
    env.unset "RUST_LOG" = env'.unset "RUST_LOG" ∧ ValidFilter env ∧ ValidFilter env' ∧
    (run "" words env).1.status = (run "" words' env').1.status ∧
    (run "" words env).1.stdout = (run "" words' env').1.stdout ∧
    run "" words env = run "" words' env := by
  intro words words' env env'
  have hparse : parse words = .ok ⟨1, some (.check none true)⟩ := rfl
  have hparse' : parse words' = .ok ⟨2, some (.check none true)⟩ := rfl
  have henv : env.unset "RUST_LOG" = env'.unset "RUST_LOG" := by decide
  have hvalid : ValidFilter env := by decide
  have hvalid' : ValidFilter env' := by decide
  obtain ⟨hruns, hdirectives⟩ := logging_does_not_interfere hparse hparse' rfl
  obtain ⟨⟨filter, filter', -, -, hsame⟩, -⟩ := hruns "" "" env env' henv hvalid hvalid'
  exact ⟨hparse, hparse', henv, hvalid, hvalid', hsame.status_eq, hsame.stdout_eq,
    hdirectives "" env _ rfl (by decide)⟩

end FactorialCheck.Program
