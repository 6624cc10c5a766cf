import FactorialCheck.Proofs.Interference
import FactorialCheck.Proofs.Selection

/-!
# Filter texts as sets of rules

What a filter text makes of a run depends on the clauses that it lists and not on
where they stand. A directive with a misspelled threshold fails the run.
-/

namespace FactorialCheck

namespace Log

/-! ## Texts of clauses -/

/-- Clauses stand between commas, and so do empty texts between and around them. -/
def Lists (text : String) (clauses : List Clause) : Prop :=
  ∃ parts : List String, text = ",".intercalate parts ∧
    (parts.filter fun part => part ≠ "") = clauses.map Clause.text

theorem pieces_intercalate {parts : List String} (hne : parts ≠ [])
    (h : ∀ part ∈ parts, ',' ∉ part.toList) :
    pieces ',' (",".intercalate parts).toList = parts.map String.toList := by
  induction parts with
  | nil => exact absurd rfl hne
  | cons part rest ih =>
    have hpart := h part List.mem_cons_self
    cases rest with
    | nil =>
      rw [String.intercalate_singleton, pieces_of_not_mem hpart]
      rfl
    | cons other more =>
      have hrest := ih (List.cons_ne_nil other more)
        fun text htext => h text (List.mem_cons_of_mem part htext)
      have hcs : (",".intercalate (part :: other :: more)).toList =
          part.toList ++ ',' :: (",".intercalate (other :: more)).toList := by
        rw [String.intercalate_cons_cons, String.toList_append, String.toList_append,
          List.append_assoc]
        rfl
      rw [hcs, pieces_append_separator hpart, hrest]
      rfl

/-- The directives of parts without commas are those of them that are not empty. -/
theorem Filter.directives_intercalate {parts : List String}
    (h : ∀ part ∈ parts, ',' ∉ part.toList) :
    directives (",".intercalate parts) =
      (parts.filter fun part => part ≠ "").map String.toList := by
  cases parts with
  | nil => decide
  | cons part rest =>
    have hempty : ((fun cs : List Char => !cs.isEmpty) ∘ String.toList) =
        fun part => decide (part ≠ "") := by
      funext part
      rw [Bool.eq_iff_iff]
      simp
    rw [directives, pieces_intercalate (List.cons_ne_nil part rest) h, List.filter_map, hempty]

section Lists

variable {text : String} {clauses : List Clause} (h : Lists text clauses)
  (hformed : ∀ clause ∈ clauses, clause.WellFormed)
include h hformed

theorem Filter.directives_of_lists :
    directives text = clauses.map fun clause => clause.text.toList := by
  obtain ⟨parts, rfl, hparts⟩ := h
  have hcomma : ∀ part ∈ parts, ',' ∉ part.toList := by
    intro part hpart
    by_cases hempty : part = ""
    · rw [hempty]
      exact List.not_mem_nil
    · have hmem : part ∈ parts.filter fun part => part ≠ "" :=
        List.mem_filter.mpr ⟨hpart, decide_eq_true hempty⟩
      rw [hparts] at hmem
      obtain ⟨clause, hclause, rfl⟩ := List.mem_map.mp hmem
      exact (hformed clause hclause).comma_not_mem
  rw [directives_intercalate hcomma, hparts, List.map_map]
  rfl

theorem Filter.ofText_of_lists_nil (hnil : clauses = []) (fallback : Threshold) :
    ofText fallback text = .ok (uniform fallback) := by
  rw [ofText, directives_of_lists h hformed, hnil]
  rfl

/-- Each clause sets its rule, whatever the verbosity. -/
theorem Filter.ofText_of_lists (hne : clauses ≠ []) (fallback : Threshold) :
    ofText fallback text = .ok ⟨clauses.map Clause.rule⟩ := by
  have hread : (clauses.map fun clause => clause.text.toList).mapM Directive.ofText =
      .ok (clauses.map Clause.directive) :=
    mapM_map_eq_ok fun clause hclause => (hformed clause hclause).ofText_text
  have hrules : (clauses.map Clause.directive).filterMap Rule.ofDirective? =
      clauses.map Clause.rule := by
    rw [List.filterMap_map, ← List.filterMap_eq_map]
    rfl
  have htexts : (clauses.map fun clause => clause.text.toList) ≠ [] := by
    simpa using hne
  rw [ofText, directives_of_lists h hformed]
  split
  · exact absurd ‹_› htexts
  · rw [hread]
    exact congrArg (fun rules => Except.ok (Filter.mk rules)) hrules

end Lists

end Log

namespace Program

open CommandLine Log

/-! ## Runs -/

/-- The environment has a filter text that lists clauses. -/
structure SetsRules (env : Environment) (clauses : List Clause) : Prop where
  lists : ∃ text, env.get? "RUST_LOG" = some text ∧ Lists text clauses
  wellFormed : ∀ clause ∈ clauses, clause.WellFormed

/-- The lines of the events that clauses admit. -/
def loggedText (stamp : String) (clauses : List Clause) (events : List Event) : String :=
  unlines ((events.filter fun event => Logged clauses event).map fun event => stamp ++ event.line)

theorem loggedText_congr {first second : List Clause}
    (h : ∀ event, Logged first event ↔ Logged second event) (stamp : String) :
    loggedText stamp first = loggedText stamp second := by
  funext events
  simp only [loggedText, h]

section Outcome

variable {words : List String} {invocation : Invocation} {env : Environment}
  {clauses : List Clause}

theorem SetsRules.filterOf_eq (h : SetsRules env clauses) (hne : clauses ≠ []) (verbose : Nat) :
    filterOf verbose env = .ok ⟨clauses.map Clause.rule⟩ := by
  obtain ⟨text, hget, hlists⟩ := h.lists
  rw [filterOf_of_get? hget, Filter.ofText_of_lists hlists h.wellFormed hne]

theorem SetsRules.filterOf_nil (h : SetsRules env []) (verbose : Nat) :
    filterOf verbose env = .ok (.uniform (.ofVerbosity verbose)) := by
  obtain ⟨text, hget, hlists⟩ := h.lists
  rw [filterOf_of_get? hget, Filter.ofText_of_lists_nil hlists h.wellFormed rfl]

/-- What is shown and told comes of the answer, what is logged of the clauses. -/
theorem SetsRules.outcome_eq (h : SetsRules env clauses) (hne : clauses ≠ [])
    (hunique : ∀ event, UniqueFor event clauses) (hparse : parse words = .ok invocation)
    (stamp : String) :
    (run stamp words env).1 = outcomeOf (loggedText stamp clauses)
      (answerTo env (invocation.command.getD (.check none false))) := by
  have hadmits : Filter.admits ⟨clauses.map Clause.rule⟩ = fun event => Logged clauses event := by
    funext event
    rw [Bool.eq_iff_iff, Filter.admits_iff_logged (hunique event), decide_eq_true_eq]
  have hlog : logText stamp ⟨clauses.map Clause.rule⟩ = loggedText stamp clauses := by
    funext events
    rw [logText, hadmits, loggedText]
  rw [outcome_of_parse hparse, h.filterOf_eq hne, outcomeBehind, hlog]

theorem SetsRules.outcome_perm {env' : Environment} {clauses' : List Clause}
    (h : SetsRules env clauses) (h' : SetsRules env' clauses')
    (henv : env.unset "RUST_LOG" = env'.unset "RUST_LOG") (hdistinct : DistinctTargets clauses)
    (hperm : clauses.Perm clauses') (hparse : parse words = .ok invocation) (stamp : String) :
    (run stamp words env).1 = (run stamp words env').1 := by
  by_cases hne : clauses = []
  · -- The verbosity decides for both.
    subst hne
    obtain rfl := hperm.nil_eq
    rw [outcome_of_parse hparse, outcome_of_parse hparse, h.filterOf_nil, h'.filterOf_nil,
      answerTo_congr (load_eq_of_unset_eq henv)]
  · have hne' : clauses' ≠ [] := fun hnil => hne (hperm.trans (.of_eq hnil)).eq_nil
    rw [h.outcome_eq hne hdistinct.uniqueFor hparse,
      h'.outcome_eq hne' (fun event => (hdistinct.uniqueFor event).perm hperm) hparse,
      answerTo_congr (load_eq_of_unset_eq henv), loggedText_congr fun _ => logged_perm hperm]

/-- A clause that applies to no event has no say in a run. -/
theorem SetsRules.outcome_extra {env' : Environment} {clauses' : List Clause} {extra : Clause}
    (h : SetsRules env clauses) (h' : SetsRules env' clauses')
    (henv : env.unset "RUST_LOG" = env'.unset "RUST_LOG") (hdistinct : DistinctTargets clauses)
    (hne : clauses ≠ []) (hperm : clauses'.Perm (extra :: clauses))
    (hnever : ∀ event, ¬ extra.AppliesTo event) (hparse : parse words = .ok invocation)
    (stamp : String) :
    (run stamp words env).1 = (run stamp words env').1 := by
  have hne' : clauses' ≠ [] := by
    rintro rfl
    exact absurd hperm.nil_eq (List.cons_ne_nil extra clauses).symm
  have hunique : ∀ event, UniqueFor event clauses' := fun event =>
    ((hdistinct.uniqueFor event).cons (hnever event)).perm hperm.symm
  have hlogged : ∀ event, Logged clauses event ↔ Logged clauses' event := fun event =>
    (logged_cons_iff (hnever event)).symm.trans (logged_perm hperm).symm
  rw [h.outcome_eq hne hdistinct.uniqueFor hparse, h'.outcome_eq hne' hunique hparse,
    answerTo_congr (load_eq_of_unset_eq henv), loggedText_congr hlogged]

end Outcome

section Misspelled

variable {parts : List String} (hcomma : ∀ part ∈ parts, ',' ∉ part.toList)
include hcomma

/-- A text with a misspelled threshold is refused, whatever stands beside it. -/
theorem not_valid_of_misspelled (hmisspelled : ∃ part ∈ parts, Directive.Misspelled part) :
    ¬ Filter.Valid (",".intercalate parts) := by
  obtain ⟨part, hpart, hmisspelled⟩ := hmisspelled
  intro hvalid
  have hne : part ≠ "" := by
    rintro rfl
    cases Directive.ofText_of_misspelled hmisspelled
  have hmem : part.toList ∈ Filter.directives (",".intercalate parts) := by
    rw [Filter.directives_intercalate hcomma]
    exact List.mem_map_of_mem (List.mem_filter.mpr ⟨hpart, decide_eq_true hne⟩)
  have hread := hvalid part.toList hmem
  rw [Directive.ofText_of_misspelled hmisspelled] at hread
  cases hread

/-- If what stands beside it can be read, the threshold is what is told of. -/
theorem halt_of_misspelled {fallback : Threshold} {halt : Halt}
    (hread : Filter.ofText fallback (",".intercalate parts) = .error halt)
    (hothers : ∀ part ∈ parts, part = "" ∨ Directive.Misspelled part ∨
      ∃ clause : Clause, clause.WellFormed ∧ clause.text = part) :
    halt = .refused .unknownThreshold := by
  obtain ⟨cs, hfind, herror⟩ := Filter.ofText_eq_error_iff.mp hread
  have hcs := List.mem_of_find?_eq_some hfind
  rw [Filter.directives_intercalate hcomma] at hcs
  obtain ⟨part, hpart, rfl⟩ := List.mem_map.mp hcs
  obtain ⟨hpart, hne⟩ := List.mem_filter.mp hpart
  rcases hothers part hpart with hempty | hmisspelled | ⟨clause, hformed, rfl⟩
  · exact absurd hempty (of_decide_eq_true hne)
  · rw [Directive.ofText_of_misspelled hmisspelled] at herror
    exact (Except.error.inj herror).symm
  · rw [hformed.ofText_text] at herror
    cases herror

end Misspelled

/--
A filter text counts as a set of clauses, of which no two have one target. Neither their
order nor empty directives have an effect on the outcome of a command. Where there are
clauses, one more that applies to no event has none either, and an event is logged if
and only if the longest of the targets that its own begins with admits its level. A
misspelled threshold ends the run before the command, whatever stands beside it: as a
failure, unless a directive beside it that has blanks before it aborts the reading, and
if all of this can be read, the threshold is what is told of.
-/
theorem clauses_decide_as_a_set {words : List String} {invocation : Invocation}
    (hparse : parse words = .ok invocation) :
    (∀ (stamp : String) (env env' : Environment) (clauses clauses' : List Clause),
      SetsRules env clauses → SetsRules env' clauses' →
      env.unset "RUST_LOG" = env'.unset "RUST_LOG" →
      DistinctTargets clauses → clauses.Perm clauses' →
      (run stamp words env).1 = (run stamp words env').1) ∧
    (∀ (stamp : String) (env env' : Environment) (clauses clauses' : List Clause)
      (extra : Clause), SetsRules env clauses → SetsRules env' clauses' →
      env.unset "RUST_LOG" = env'.unset "RUST_LOG" →
      DistinctTargets clauses → clauses ≠ [] → clauses'.Perm (extra :: clauses) →
      ¬ extra.target.toList <+: "fact_core::driver".toList →
      ¬ extra.target.toList <+: "fact_core::factorial".toList →
      (run stamp words env).1 = (run stamp words env').1) ∧
    (∀ (stamp : String) (env : Environment) (clauses : List Clause),
      SetsRules env clauses → DistinctTargets clauses → clauses ≠ [] →
      (run stamp words env).1 = outcomeOf (loggedText stamp clauses)
        (answerTo env (invocation.command.getD (.check none false)))) ∧
    (∀ (stamp : String) (env : Environment) (parts : List String),
      env.get? "RUST_LOG" = some (",".intercalate parts) →
      (∀ part ∈ parts, ',' ∉ part.toList) → (∃ part ∈ parts, Directive.Misspelled part) →
      ∃ halt, run stamp words env = (halted halt, env) ∧
        (¬ Filter.Aborts (",".intercalate parts) → ∃ error, halt = .refused error) ∧
        (Filter.Aborts (",".intercalate parts) → ∃ part ∈ parts, ∃ c ∈ part.toList.head?,
          CharacterClass.whiteSpace.holds c = true) ∧
        ((∀ part ∈ parts, part = "" ∨ Directive.Misspelled part ∨
          ∃ clause : Clause, clause.WellFormed ∧ clause.text = part) →
          halt = .refused .unknownThreshold)) := by
  refine ⟨?_, ?_, ?_, ?_⟩
  · intro stamp env env' clauses clauses' h h' henv hdistinct hperm
    exact h.outcome_perm h' henv hdistinct hperm hparse stamp
  · intro stamp env env' clauses clauses' extra h h' henv hdistinct hne hperm hdriver hfactorial
    exact h.outcome_extra h' henv hdistinct hne hperm
      (Clause.not_appliesTo_of_targets hdriver hfactorial) hparse stamp
  · intro stamp env clauses h hdistinct hne
    exact h.outcome_eq hne hdistinct.uniqueFor hparse stamp
  · intro stamp env parts hget hcomma hmisspelled
    have hinvalid := not_valid_of_misspelled hcomma hmisspelled
    obtain ⟨halt, hread⟩ := Filter.exists_ofText_halt hinvalid
    refine ⟨halt, run_of_halt hparse ((filterOf_of_get? hget _).trans (hread _)), ?_, ?_, ?_⟩
    · intro haborts
      obtain ⟨error, herror⟩ := Filter.exists_ofText_error hinvalid haborts
      exact ⟨error, Except.error.inj ((hread .off).symm.trans (herror .off))⟩
    · intro haborts
      obtain ⟨cs, hcs, hblank⟩ := Filter.exists_blank_of_aborts haborts
      rw [Filter.directives_intercalate hcomma] at hcs
      obtain ⟨part, hpart, rfl⟩ := List.mem_map.mp hcs
      exact ⟨part, (List.mem_filter.mp hpart).1, hblank⟩
    · exact halt_of_misspelled hcomma (hread .off)

/--
A level before the target that it does not decide on, and behind it with empty
directives; a target of another program added; and a threshold that is none.
-/
theorem clauses_decide_as_a_set_in_eval :
    let words := ["-vv", "eval", "for", "5"]
    let invocation : Invocation := ⟨2, some (.eval .forLoop 5)⟩
    let level : Clause := .level "Off" .off
    let core : Clause := .assignment "fact_core" "+04" (.upTo .debug)
    let other : Clause := .full "hyper"
    let env (text : String) := Environment.ofList [⟨"RUST_LOG", text⟩]
    parse words = .ok invocation ∧
    SetsRules (env "Off,fact_core=+04") [level, core] ∧
    SetsRules (env ",fact_core=+04,,Off") [core, level] ∧
    SetsRules (env "Off,hyper,fact_core=+04") [level, other, core] ∧
    DistinctTargets [level, core] ∧ Directive.Misspelled "fact_core=loud" ∧
    (run "" words (env "Off,fact_core=+04")).1 = ⟨.success, "120\n",
      "DEBUG fact_core::factorial: evaluated strategy=for n=5 value=120\n"⟩ ∧
    (run "" words (env ",fact_core=+04,,Off")).1 = (run "" words (env "Off,fact_core=+04")).1 ∧
    (run "" words (env "Off,hyper,fact_core=+04")).1 =
      (run "" words (env "Off,fact_core=+04")).1 ∧
    (run "" words (env "Off,fact_core=loud")).1 =
      ⟨.failure, "", (ProgramError.filter .unknownThreshold).render⟩ := by
  intro words invocation level core other env
  have hparse : parse words = .ok invocation := rfl
  have hlevel : level.WellFormed := ⟨by decide, by decide +kernel⟩
  have hcore : core.WellFormed := ⟨by decide +kernel, by decide⟩
  have hother : other.WellFormed :=
    ⟨by decide +kernel, Threshold.ofText?_eq_none_iff.mp (by decide)⟩
  have hlisted {text : String} (clauses : List Clause) (parts : List String)
      (htext : text = ",".intercalate parts)
      (hparts : (parts.filter fun part => part ≠ "") = clauses.map Clause.text)
      (hget : (env text).get? "RUST_LOG" = some text)
      (hformed : ∀ clause ∈ clauses, clause.WellFormed) : SetsRules (env text) clauses :=
    ⟨⟨text, hget, parts, htext, hparts⟩, hformed⟩
  have hfirst : SetsRules (env "Off,fact_core=+04") [level, core] :=
    hlisted _ ["Off", "fact_core=+04"] rfl rfl rfl (by simp [hlevel, hcore])
  have hsecond : SetsRules (env ",fact_core=+04,,Off") [core, level] :=
    hlisted _ ["", "fact_core=+04", "", "Off"] rfl rfl rfl (by simp [hlevel, hcore])
  have hthird : SetsRules (env "Off,hyper,fact_core=+04") [level, other, core] :=
    hlisted _ ["Off", "hyper", "fact_core=+04"] rfl rfl rfl (by simp [hlevel, hcore, hother])
  have hdistinct : DistinctTargets [level, core] := by decide
  have hmisspelled : Directive.Misspelled "fact_core=loud" :=
    ⟨"fact_core", "loud", rfl, hcore.1, by decide, Threshold.ofText?_eq_none_iff.mp (by decide)⟩
  obtain ⟨hperm, hextra, hlogged, herror⟩ := clauses_decide_as_a_set hparse
  refine ⟨hparse, hfirst, hsecond, hthird, hdistinct, hmisspelled, ?_, ?_, ?_, ?_⟩
  · rw [hlogged "" _ _ hfirst hdistinct (by decide)]
    decide +kernel
  · exact (hperm "" _ _ _ _ hfirst hsecond rfl hdistinct (.swap ..)).symm
  · exact (hextra "" _ _ _ _ other hfirst hthird rfl hdistinct (by decide) (.swap ..) (by decide)
      (by decide)).symm
  · obtain ⟨halt, hrun, -, -, hunknown⟩ := herror "" (env "Off,fact_core=loud")
      ["Off", "fact_core=loud"] rfl (by decide) ⟨_, by simp, hmisspelled⟩
    have hreadable : ∀ part ∈ ["Off", "fact_core=loud"], part = "" ∨
        Directive.Misspelled part ∨ ∃ clause : Clause, clause.WellFormed ∧ clause.text = part := by
      simp only [List.forall_mem_cons]
      exact ⟨.inr (.inr ⟨level, hlevel, rfl⟩), .inr (.inl hmisspelled), nofun⟩
    rw [hrun, hunknown hreadable]
    rfl

/--
A target that does not begin as one has to is refused, even beside other clauses. A text
without clauses leaves the verbosity to decide. A number with a plus sign is a
threshold too. And a misspelled threshold is not told of where the reading aborts first.
-/
theorem texts_beyond_sets_of_clauses :
    let env (text : String) := Environment.ofList [⟨"RUST_LOG", text⟩]
    (Directive.Plain "./x" ∧
      ¬ "./x".toList <+: "fact_core::driver".toList ∧
      ¬ "./x".toList <+: "fact_core::factorial".toList ∧
      (run "" ["nothing"] (env "warn")).1 = ⟨.success, "Nothing\n", ""⟩ ∧
      (run "" ["nothing"] (env "warn,./x")).1 = ⟨.failure, "",
        "Error: invalid filter directive\n\nCaused by:\n    invalid filter directive\n"⟩) ∧
    (Lists "" [] ∧ (∀ event, ¬ Logged [] event) ∧
      (run "" ["-vv", "eval", "for", "5"] (env "")).1 = ⟨.success, "120\n",
        "DEBUG fact_core::factorial: evaluated strategy=for n=5 value=120\n"⟩) ∧
    ("+4" ∉ ["off", "error", "warn", "info", "debug", "trace", "0", "1", "2", "3", "4", "5"] ∧
      (run "" ["nothing"] (env "fact_core=+4")).1 = ⟨.success, "Nothing\n", ""⟩) ∧
    (Directive.Misspelled "fact_core=loud" ∧
      (run "" ["nothing"] (env " é=info,fact_core=loud")).1 = ⟨.aborted, "", ""⟩) := by
  intro env
  refine ⟨⟨by decide, by decide, by decide, by decide +kernel, by decide +kernel⟩,
    ⟨⟨[], rfl, rfl⟩, ?_, by decide +kernel⟩, ⟨by decide, by decide +kernel⟩,
    ⟨"fact_core", "loud", rfl, by decide +kernel, by decide,
      Threshold.ofText?_eq_none_iff.mp (by decide)⟩, by decide +kernel⟩
  rintro event ⟨clause, hdecides, -⟩
  cases hdecides.mem

end Program

end FactorialCheck
