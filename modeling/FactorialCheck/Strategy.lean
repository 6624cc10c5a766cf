import FactorialCheck.Text.Ascii

/-!
# Strategies

The three control-flow styles a factorial is computed with, how they are shown and
what arguments call them.
-/

namespace FactorialCheck

inductive Strategy where
  | recursive
  | whileLoop
  | forLoop
  deriving DecidableEq, Repr

namespace Strategy

/-- All strategies, in the order in which messages list them. -/
def all : List Strategy :=
  [.recursive, .whileLoop, .forLoop]

/-- How a strategy is shown. -/
def name : Strategy → String
  | .recursive => "recursive"
  | .whileLoop => "while"
  | .forLoop => "for"

/-- What an argument calls a strategy. -/
def argument : Strategy → String
  | .recursive => "recursive"
  | .whileLoop => "while"
  | .forLoop => "for"

theorem mem_all (strategy : Strategy) : strategy ∈ all := by
  cases strategy <;> decide

theorem name_injective {a b : Strategy} (h : a.name = b.name) : a = b := by
  revert h
  cases a <;> cases b <;> simp [name]

theorem argument_eq_name (strategy : Strategy) : strategy.argument = strategy.name := by
  cases strategy <;> rfl

/-- The strategy that an argument calls exactly by its name. -/
def ofName? (text : String) : Option Strategy :=
  all.find? fun strategy => strategy.argument == text

/-- The strategy whose name an argument spells up to ASCII case. -/
def ofNameIgnoringCase? (text : String) : Option Strategy :=
  all.find? fun strategy => Ascii.sameIgnoringCase strategy.argument text

end Strategy

/-- A text that names no strategy. -/
structure UnknownStrategy where
  text : String
  deriving DecidableEq, Repr

def UnknownStrategy.message (unknown : UnknownStrategy) : String :=
  "invalid variant: " ++ unknown.text

/-- Reads a strategy given as an argument. -/
def Strategy.ofArgument (text : String) (ignoreCase : Bool) :
    Except UnknownStrategy Strategy :=
  match if ignoreCase then ofNameIgnoringCase? text else ofName? text with
  | some strategy => .ok strategy
  | none => .error ⟨text⟩

end FactorialCheck
