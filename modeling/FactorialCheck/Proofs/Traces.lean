import FactorialCheck.Proofs.Agreement
import FactorialCheck.Proofs.Outcomes
import Mathlib.Data.List.Basic

/-!
# Traces

What is logged in the course of a check, of an evaluation and of a command. Each of
them logs everything about its result or, if it has none, nothing at all, and a
threshold picks lines by their level.
-/

namespace FactorialCheck

/-! ## Lines with their levels -/

namespace Log

/-- The lines of a log that a threshold admits. -/
def Threshold.pick (threshold : Threshold) (lines : List (Level × String)) : List String :=
  (lines.filter fun line => threshold.admits line.1).map Prod.snd

/-- A line with the level it is logged at. -/
def Event.leveled (event : Event) : Level × String :=
  (event.level, event.line)

theorem Threshold.pick_leveled (threshold : Threshold) (events : List Event) :
    threshold.pick (events.map Event.leveled) =
      (events.filter fun event => threshold.admits event.level).map Event.line := by
  rw [pick, List.filter_map, List.map_map]
  rfl

/-- A threshold picks no more than a more verbose one. -/
theorem Threshold.pick_sublist {a b : Threshold} (h : a.rank ≤ b.rank)
    (lines : List (Level × String)) : (a.pick lines).Sublist (b.pick lines) :=
  (List.monotone_filter_right lines fun _ => admits_of_rank_le h).map _

end Log

theorem Traced.linesUpTo_of_events {ε α : Type} {t : Traced ε α}
    {lines : List (Log.Level × String)} (h : t.events.map Log.Event.leveled = lines)
    (threshold : Log.Threshold) : t.linesUpTo threshold = threshold.pick lines := by
  rw [← h, Log.Threshold.pick_leveled]
  rfl

/-! ## Checks -/

namespace Report

/-- The log of a check with this report: its three results and then the verdict. -/
def log (report : Report) : List (Log.Level × String) :=
  let n := Numeral.ofInput report.input
  let recursive := Numeral.ofResult report.recursive
  let forLoop := Numeral.ofResult report.forLoop
  let whileLoop := Numeral.ofResult report.whileLoop
  let agrees := if report.agrees then "true" else "false"
  [(.debug, "DEBUG fact_core::driver: recursive n=" ++ n ++ " value=" ++ recursive),
   (.debug, "DEBUG fact_core::driver: for loop n=" ++ n ++ " value=" ++ forLoop),
   (.debug, "DEBUG fact_core::driver: while loop n=" ++ n ++ " value=" ++ whileLoop),
   (.info, " INFO fact_core::driver: agreement check finished n=" ++ n
     ++ " recursive=" ++ recursive ++ " for_loop=" ++ forLoop ++ " while_loop=" ++ whileLoop
     ++ " agrees=" ++ agrees)]

/-- The events of a check with this report. -/
def events (report : Report) : List Log.Event :=
  [.computed .recursive report.input report.recursive,
   .computed .forLoop report.input report.forLoop,
   .computed .whileLoop report.input report.whileLoop,
   .finished report]

theorem map_leveled_events (report : Report) :
    report.events.map Log.Event.leveled = report.log := by
  simp [events, log, Log.Event.leveled, Log.Event.level, Log.Event.line, Log.Event.target,
    Log.Event.message, Log.Event.fields, Log.Level.label, ← String.toList_inj]

end Report

/-- A check logs all of its report, or it fails and logs nothing. -/
theorem check_cases (n : Int64) :
    (∃ failure, check n = ⟨[], .error failure⟩) ∨
    ∃ report : Report, report.input = n ∧ check n = ⟨report.events, .ok report⟩ := by
  rw [check]
  cases Strategy.recursive.compute n with
  | error failure => exact .inl ⟨failure, rfl⟩
  | ok recursive =>
    cases Strategy.forLoop.compute n with
    | error failure => exact .inl ⟨failure, rfl⟩
    | ok forLoop =>
      cases Strategy.whileLoop.compute n with
      | error failure => exact .inl ⟨failure, rfl⟩
      | ok whileLoop => exact .inr ⟨⟨n, recursive, forLoop, whileLoop⟩, rfl, rfl⟩

section Check

variable {n : Int64}

theorem check_of_ok {report : Report} (h : (check n).result = .ok report) :
    report.input = n ∧ (check n).events = report.events := by
  rcases check_cases n with ⟨failure, hcheck⟩ | ⟨returned, hinput, hcheck⟩
  · rw [hcheck] at h
    cases h
  · rw [hcheck] at h ⊢
    cases h
    exact ⟨hinput, rfl⟩

theorem events_check_of_error {failure : Failure} (h : (check n).result = .error failure) :
    (check n).events = [] := by
  rcases check_cases n with ⟨failure, hcheck⟩ | ⟨returned, -, hcheck⟩
  · rw [hcheck]
  · rw [hcheck] at h
    cases h

/-- Writing the verdict logs nothing more, whether the text is accepted or not. -/
theorem events_writeVerdict {σ : Type} [Writer σ] (n : Int64) (out : σ) :
    (writeVerdict n out).1.events = (check n).events := by
  cases h : (check n).result with
  | ok report =>
    rw [writeVerdict, Writing.ofTraced_bind_ok h, Writing.bind_pure_apply,
      Writing.events_writeLine]
    exact List.append_nil _
  | error failure => rw [writeVerdict, Writing.ofTraced_bind_error h]

end Check

/-! ## Evaluations -/

/-- The log of an evaluation with this value. -/
def Strategy.log (strategy : Strategy) (n : Int64) (value : UInt64) :
    List (Log.Level × String) :=
  [(.debug, "DEBUG fact_core::factorial: evaluated strategy=" ++ strategy.name
     ++ " n=" ++ Numeral.ofInput n ++ " value=" ++ Numeral.ofResult value)]

theorem Strategy.map_leveled_evaluated (strategy : Strategy) (n : Int64) (value : UInt64) :
    [Log.Event.evaluated strategy n value].map Log.Event.leveled = strategy.log n value := by
  simp [log, Log.Event.leveled, Log.Event.level, Log.Event.line, Log.Event.target,
    Log.Event.message, Log.Event.fields, Log.Level.label, ← String.toList_inj]

section Evaluate

variable {strategy : Strategy} {n : Int64}

theorem events_evaluate_of_ok {value : UInt64} (h : (evaluate strategy n).result = .ok value) :
    (evaluate strategy n).events = [.evaluated strategy n value] := by
  rw [result_evaluate] at h
  rw [evaluate, h]
  rfl

theorem events_evaluate_of_error {failure : Failure}
    (h : (evaluate strategy n).result = .error failure) : (evaluate strategy n).events = [] := by
  rw [result_evaluate] at h
  rw [evaluate, h]
  rfl

end Evaluate

/-! ## Commands -/

/-- Everything is logged at one of two levels. -/
theorem Log.Event.level_cases (event : Event) : event.level = .info ∨ event.level = .debug := by
  cases event with
  | computed => exact .inr rfl
  | finished => exact .inl rfl
  | evaluated => exact .inr rfl

namespace Program

open CommandLine

/-- The log lines of a command at a verbosity. -/
def logLines (env : Environment) (command : Command) (verbose : Nat) : List String :=
  (answerTo env command).linesUpTo (.ofVerbosity verbose)

section Verbosity

variable (env : Environment) (command : Command)

theorem logLines_zero : logLines env command 0 = [] := by
  rw [logLines, Traced.linesUpTo, List.map_eq_nil_iff, List.filter_eq_nil_iff]
  intro event _
  rcases event.level_cases with h | h <;> rw [h] <;> decide

theorem logLines_of_two_le {verbose : Nat} (h : 2 ≤ verbose) :
    logLines env command verbose = (answerTo env command).events.map Log.Event.line := by
  rw [logLines, Traced.linesUpTo, List.filter_eq_self.mpr]
  intro event _
  have hrank := Log.Threshold.ofVerbosity_rank_le h
  apply Log.Threshold.admits_of_rank_le hrank
  rcases event.level_cases with h | h <;> rw [h] <;> decide

theorem logLines_sublist {verbose verbose' : Nat} (h : verbose ≤ verbose') :
    (logLines env command verbose).Sublist (logLines env command verbose') := by
  rw [logLines, logLines, Traced.linesUpTo_of_events rfl, Traced.linesUpTo_of_events rfl]
  exact Log.Threshold.pick_sublist (Log.Threshold.ofVerbosity_rank_le h) _

end Verbosity

theorem logText_uniform (stamp : String) (threshold : Log.Threshold)
    (answer : Traced ProgramError String) :
    logText stamp (.uniform threshold) answer.events =
      unlines ((answer.linesUpTo threshold).map (stamp ++ ·)) := by
  have hadmits : (Log.Filter.uniform threshold).admits =
      fun event => threshold.admits event.level :=
    funext (Log.Filter.admits_uniform threshold)
  rw [logText, hadmits, Traced.linesUpTo, List.map_map]
  rfl

/-- Without a filter text the verbosity decides on the log lines before the error. -/
theorem stderr_of_unfiltered {stamp : String} {words : List String} {env : Environment}
    {invocation : Invocation} (hparse : parse words = .ok invocation)
    (henv : env.get? "RUST_LOG" = none) :
    let command := invocation.command.getD (.check none false)
    (run stamp words env).1.stderr =
      unlines ((logLines env command invocation.verbose).map (stamp ++ ·)) ++
        errorBlock (answerTo env command).result := by
  rw [outcome_of_parse hparse, filterOf_of_none henv, outcomeBehind, outcomeOf, logText_uniform]
  rfl

end Program

/-! ## Every trace -/

/--
Traces are complete and true. A check that succeeds logs its three results and its
verdict, as they stand in its report, of which a threshold admits a part by level; one
that fails logs nothing, even if the recursion has had its result by then. Writing the
verdict to any writer logs the same, whatever becomes of the writing. An evaluation
logs its value if it has one. Of a run without a filter text the log lines depend on
the verbosity: it has none at 0, no fewer at a higher one, and all of them from 2 on.
-/
theorem traces_are_complete :
    (∀ (n : Int64) (threshold : Log.Threshold),
      (∀ report, (check n).result = .ok report →
        report.input = n ∧ (check n).linesUpTo threshold = threshold.pick report.log) ∧
      (∀ failure, (check n).result = .error failure → (check n).linesUpTo threshold = []) ∧
      (∀ (σ : Type) [Writer σ] (out : σ),
        (writeVerdict n out).1.linesUpTo threshold = (check n).linesUpTo threshold)) ∧
    (∀ n : Int64, 20 < n → n ≤ 1000 →
      (evaluate .recursive n).result = .ok 0 ∧ (check n).result = .error (.overflow n) ∧
      ∀ threshold, (check n).linesUpTo threshold = []) ∧
    (∀ (strategy : Strategy) (n : Int64) (threshold : Log.Threshold),
      (∀ value, (evaluate strategy n).result = .ok value →
        (evaluate strategy n).linesUpTo threshold = threshold.pick (strategy.log n value)) ∧
      (∀ failure, (evaluate strategy n).result = .error failure →
        (evaluate strategy n).linesUpTo threshold = [])) ∧
    (∀ (env : Environment) (command : CommandLine.Command), env.get? "RUST_LOG" = none →
      (∀ stamp words invocation, CommandLine.parse words = .ok invocation →
        invocation.command.getD (.check none false) = command →
        (Program.run stamp words env).1.stderr =
          unlines ((Program.logLines env command invocation.verbose).map (stamp ++ ·)) ++
            Program.errorBlock (Program.answerTo env command).result) ∧
      (∀ verbose verbose', verbose ≤ verbose' →
        (Program.logLines env command verbose).Sublist
          (Program.logLines env command verbose')) ∧
      Program.logLines env command 0 = [] ∧
      (∀ verbose, 2 ≤ verbose →
        Program.logLines env command verbose = Program.logLines env command 2)) := by
  refine ⟨?_, ?_, ?_, ?_⟩
  · intro n threshold
    refine ⟨?_, ?_, ?_⟩
    · intro report h
      obtain ⟨hinput, hevents⟩ := check_of_ok h
      refine ⟨hinput, Traced.linesUpTo_of_events ?_ threshold⟩
      rw [hevents, Report.map_leveled_events]
    · intro failure h
      rw [Traced.linesUpTo, events_check_of_error h]
      rfl
    · intro σ _ out
      rw [Traced.linesUpTo, events_writeVerdict, Traced.linesUpTo]
  · intro n hlarge hlimit
    have hnonneg : 0 ≤ n := Int64.le_of_lt (Int64.lt_trans (by decide) hlarge)
    refine ⟨?_, ?_, ?_⟩
    · exact (result_evaluate .recursive n).trans
        (Factorial.recursive_of_accepted hnonneg hlimit)
    · rw [check_of_overflow hlarge hlimit]
    · intro threshold
      rw [check_of_overflow hlarge hlimit]
      rfl
  · intro strategy n threshold
    constructor
    · intro value h
      refine Traced.linesUpTo_of_events ?_ threshold
      rw [events_evaluate_of_ok h, Strategy.map_leveled_evaluated]
    · intro failure h
      rw [Traced.linesUpTo, events_evaluate_of_error h]
      rfl
  · intro env command henv
    refine ⟨?_, ?_, Program.logLines_zero env command, ?_⟩
    · rintro stamp words invocation hparse rfl
      exact Program.stderr_of_unfiltered hparse henv
    · intro verbose verbose' h
      exact Program.logLines_sublist env command h
    · intro verbose h
      rw [Program.logLines_of_two_le env command h,
        Program.logLines_of_two_le env command (Nat.le_refl 2)]

/--
A check whose verdict a broken pipe refuses has its log all the same, one that
overflows has none, and a run shows the part that its verbosity admits.
-/
theorem traces_are_complete_at_broken_pipe :
    let pipe := Sink.empty ⟨some 0, none, none, .brokenPipe⟩
    let env := Environment.ofList [⟨"FACT_DRIVER_INPUT", "3"⟩]
    let finished := " INFO fact_core::driver: agreement check finished n=3 recursive=0" ++
      " for_loop=6 while_loop=6 agrees=false"
    (check 3).result = .ok ⟨3, 0, 6, 6⟩ ∧
    (announce 3 pipe).1.result = .error (.io "broken pipe") ∧
    (announce 3 pipe).1.linesUpTo (.upTo .debug) =
      ["DEBUG fact_core::driver: recursive n=3 value=0",
       "DEBUG fact_core::driver: for loop n=3 value=6",
       "DEBUG fact_core::driver: while loop n=3 value=6", finished] ∧
    (check 21).linesUpTo (.upTo .trace) = [] ∧
    (evaluate .forLoop 4).linesUpTo (.upTo .debug) =
      ["DEBUG fact_core::factorial: evaluated strategy=for n=4 value=24"] ∧
    (evaluate .forLoop 21).linesUpTo (.upTo .trace) = [] ∧
    (Program.run "" ["-v"] env).1.stderr = finished ++ "\n" := by
  intro pipe env finished
  obtain ⟨hcheck, hoverflow, hevaluate, hrun⟩ := traces_are_complete
  have hreport : (check 3).result = .ok ⟨3, 0, 6, 6⟩ := by decide +kernel
  obtain ⟨hlines, -, hwriter⟩ := hcheck 3 (.upTo .debug)
  obtain ⟨hstderr, -⟩ := hrun env (.check none false) rfl
  refine ⟨hreport, by decide +kernel, ?_, (hoverflow 21 (by decide) (by decide)).2.2 _,
    ?_, (hevaluate .forLoop 21 _).2 (.overflow 21) (by decide), ?_⟩
  · exact (hwriter Sink pipe).trans ((hlines _ hreport).2.trans (by decide +kernel))
  · exact ((hevaluate .forLoop 4 _).1 24 (by decide)).trans (by decide)
  · exact (hstderr "" ["-v"] ⟨1, none⟩ rfl rfl).trans (by decide +kernel)

end FactorialCheck
