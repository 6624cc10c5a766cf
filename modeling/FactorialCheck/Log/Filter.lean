import FactorialCheck.Log.Directive
import FactorialCheck.Log.Event
import FactorialCheck.Text.Pieces

/-!
# Filters

A filter is a list of rules, each a threshold for the events whose target
begins in one way, or for those of them that have a certain field. The rule
with the longest beginning decides; an event for which there is no rule is not
logged.
-/

namespace FactorialCheck.Log

structure Rule where
  target : String
  field : Option String
  threshold : Threshold
  deriving DecidableEq, Repr

namespace Rule

/--
The rule that a directive sets for events. Events are logged outside of any
span, and the values of their fields are not looked at.
-/
def ofDirective? : Directive → Option Rule
  | ⟨target, none, none, threshold⟩ => some ⟨target, none, threshold⟩
  | ⟨target, none, some ⟨name, none⟩, threshold⟩ => some ⟨target, some name, threshold⟩
  | _ => none

def appliesTo (rule : Rule) (event : Event) : Bool :=
  rule.target.toList.isPrefixOf event.target.toList &&
    match rule.field with
    | none => true
    | some name => event.fieldNames.contains name

/-- Whether a rule decides before another one that applies to the same event. -/
def outranks (a b : Rule) : Bool :=
  if a.target.length = b.target.length then
    match a.field, b.field with
    | none, _ => false
    | some _, none => true
    | some first, some second => second < first
  else b.target.length < a.target.length

end Rule

structure Filter where
  rules : List Rule
  deriving DecidableEq, Repr

namespace Filter

/-- The directives of a text stand between commas. Empty ones do not count. -/
def directives (text : String) : List (List Char) :=
  (pieces ',' text.toList).filter fun piece => !piece.isEmpty

/-- One rule for all targets. -/
def uniform (threshold : Threshold) : Filter :=
  ⟨[⟨"", none, threshold⟩]⟩

def ofDirectives (directives : List Directive) : Filter :=
  ⟨directives.filterMap Rule.ofDirective?⟩

/--
The filter that a text sets; without a directive it is uniform. The directives are
read in order, and the first that cannot be read ends the reading.
-/
def ofText (fallback : Threshold) (text : String) : Except Halt Filter :=
  match directives text with
  | [] => .ok (uniform fallback)
  | directives => (directives.mapM Directive.ofText).map ofDirectives

/-- The later of two rules, unless the earlier one outranks it. -/
def prefer (best : Option Rule) (rule : Rule) : Option Rule :=
  match best with
  | some earlier => if earlier.outranks rule then some earlier else some rule
  | none => some rule

/-- The rule that decides on an event. -/
def decisive? (filter : Filter) (event : Event) : Option Rule :=
  (filter.rules.filter fun rule => rule.appliesTo event).foldl prefer none

def admits (filter : Filter) (event : Event) : Bool :=
  match filter.decisive? event with
  | some rule => rule.threshold.admits event.level
  | none => false

@[simp] theorem admits_uniform (threshold : Threshold) (event : Event) :
    (uniform threshold).admits event = threshold.admits event.level := by
  simp [admits, decisive?, uniform, Rule.appliesTo, prefer]

end Filter

/-- A reader of filter texts, of which one without a directive leaves a threshold to decide. -/
abbrev Reader := Threshold → String → Except Halt Filter

end FactorialCheck.Log
