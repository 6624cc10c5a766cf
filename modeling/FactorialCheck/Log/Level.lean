import FactorialCheck.Numeral
import FactorialCheck.Text.Ascii

/-!
# Levels and thresholds

Events have a level; a threshold admits the events that are severe enough.
-/

namespace FactorialCheck.Log

inductive Level where
  | error
  | warn
  | info
  | debug
  | trace
  deriving DecidableEq, Repr

namespace Level

/-- Verbosity of a level: 1 for an error, 5 for a trace. -/
def rank : Level → Nat
  | .error => 1
  | .warn => 2
  | .info => 3
  | .debug => 4
  | .trace => 5

/-- Name of a level in a log line, five characters wide. -/
def label : Level → String
  | .error => "ERROR"
  | .warn => " WARN"
  | .info => " INFO"
  | .debug => "DEBUG"
  | .trace => "TRACE"

end Level

/-- The most verbose level that is let through. -/
inductive Threshold where
  | off
  | upTo (level : Level)
  deriving DecidableEq, Repr

namespace Threshold

/-- All thresholds; the position of one is the number that stands for it. -/
def all : List Threshold :=
  [.off, .upTo .error, .upTo .warn, .upTo .info, .upTo .debug, .upTo .trace]

def rank : Threshold → Nat
  | .off => 0
  | .upTo level => level.rank

def name : Threshold → String
  | .off => "off"
  | .upTo .error => "error"
  | .upTo .warn => "warn"
  | .upTo .info => "info"
  | .upTo .debug => "debug"
  | .upTo .trace => "trace"

def admits (threshold : Threshold) (level : Level) : Bool :=
  level.rank ≤ threshold.rank

theorem all_getElem?_rank (threshold : Threshold) : all[threshold.rank]? = some threshold := by
  cases threshold with
  | off => rfl
  | upTo level => cases level <;> rfl

theorem admits_of_rank_le {a b : Threshold} (h : a.rank ≤ b.rank) {level : Level}
    (ha : a.admits level = true) : b.admits level = true := by
  simp only [admits, decide_eq_true_eq] at ha ⊢
  omega

/-- The threshold of this name in any case, or of this number. -/
def ofText? (text : String) : Option Threshold :=
  match all.find? fun threshold => Ascii.sameIgnoringCase threshold.name text with
  | some threshold => some threshold
  | none =>
    match Numeral.readUnsigned text with
    | .ok value => all[value.toNat]?
    | .error _ => none

/-- The threshold that a number of requests for verbosity sets. -/
def ofVerbosity : Nat → Threshold
  | 0 => .upTo .warn
  | 1 => .upTo .info
  | 2 => .upTo .debug
  | _ => .upTo .trace

theorem ofVerbosity_rank_le {a b : Nat} (h : a ≤ b) :
    (ofVerbosity a).rank ≤ (ofVerbosity b).rank := by
  match a, b with
  | 0, 0 | 0, 1 | 0, 2 | 1, 1 | 1, 2 | 2, 2 => decide
  | 1, 0 | 2, 0 | 2, 1 => omega
  | 0, _ + 3 | 1, _ + 3 | 2, _ + 3 | _ + 3, _ + 3 => simp [ofVerbosity, rank, Level.rank]
  | _ + 3, 0 | _ + 3, 1 | _ + 3, 2 => omega

end Threshold

end FactorialCheck.Log
