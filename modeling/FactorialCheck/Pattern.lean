import FactorialCheck.Pattern.Display
import FactorialCheck.Pattern.Reader
import FactorialCheck.Pattern.Support

/-!
# Patterns

A pattern is checked before it is used: it must be well formed, and it must be
one that can be matched.
-/

namespace FactorialCheck.Pattern

/-- Why a pattern is refused. -/
inductive Rejection where
  /-- The pattern of this text has a fault. -/
  | complaint (text : List Char) (complaint : Complaint)
  /-- The pattern looks for edges of words of all scripts. -/
  | findsWords
  deriving DecidableEq, Repr

namespace Rejection

/-- The message of a rejection. -/
def message : Rejection → String
  | .complaint .. => "error building NFA"
  | .findsWords =>
    "unsupported regex feature for DFAs: cannot build DFAs for regexes with Unicode word "
      ++ "boundaries; switch to ASCII word boundaries, or heuristically enable Unicode word "
      ++ "boundaries or use a different regex engine"

/-- The messages of what a rejection was caused by. -/
def reasons : Rejection → List String
  | .complaint text found => ["error parsing regex", found.display text]
  | .findsWords => []

end Rejection

/-- Checks the pattern that a text writes. -/
def check (text : List Char) : Except Rejection Unit :=
  match read text >>= Expression.findsWords with
  | .error complaint => .error (.complaint text complaint)
  | .ok true => .error .findsWords
  | .ok false => .ok ()

end FactorialCheck.Pattern
