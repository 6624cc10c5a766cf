import FactorialCheck.Proofs.Outcomes

/-!
# The stages of a run

The command line is read before the filter, the filter before the configuration, and
the configuration before anything is computed. A run that ends at one stage has not
looked at what belongs to a later one, and only a check without an input looks at the
configuration at all.
-/

namespace FactorialCheck.Program

open CommandLine

section Given

variable {words : List String} {invocation : Invocation} (hparse : parse words = .ok invocation)
  (hgiven : ∀ json, invocation.command.getD (.check none false) ≠ .check none json)
include hparse hgiven

end Given

section Configured

variable {words : List String} {invocation : Invocation} {json : Bool}
  (hparse : parse words = .ok invocation)
  (hcommand : invocation.command.getD (.check none false) = .check none json)
include hparse hcommand

/-- Where the configuration cannot be loaded nothing is computed, and so nothing is logged. -/
theorem outcome_of_load_error {env : Environment} (h : ValidFilter env)
    {error : ConfigurationError} (hload : (Configuration.load env).1 = .error error)
    (stamp : String) :
    (run stamp words env).1 = ⟨.failure, "", (ProgramError.configuration error).render⟩ := by
  obtain ⟨filter, hfilter⟩ := exists_filterOf h invocation.verbose
  rw [outcome_of_parse hparse, hfilter, hcommand,
    answerTo_check_of_error json (checkInput_of_load_error hload)]
  exact congrArg (Outcome.mk _ _) String.empty_append

end Configured

end FactorialCheck.Program
