import FactorialCheck.Json.Mismatch
import FactorialCheck.Strategy

/-!
# Strategies in JSON

A strategy is written as its name, or as an object with the name as its only
key and null under it.
-/

namespace FactorialCheck.Strategy

/-- The name of a strategy in JSON. -/
def variant : Strategy → String
  | .recursive => "recursive"
  | .whileLoop => "while"
  | .forLoop => "for"

theorem variant_eq_name (strategy : Strategy) : strategy.variant = strategy.name := by
  cases strategy <;> rfl

def ofVariant (name : String) : Except Json.Mismatch Strategy :=
  match all.find? fun strategy => strategy.variant == name with
  | some strategy => .ok strategy
  | none => .error (.unknownVariant name (all.map variant))

def ofJson (json : Json) : Except Json.Mismatch Strategy :=
  match json with
  | .string name => ofVariant name
  | .object [(name, content)] => do
    let strategy ← ofVariant name
    match content with
    | .null => .ok strategy
    | content => .error (.wrongKind content "unit")
  | .object _ => .error (.unfit json "map with a single key")
  | _ => .error (.wrongKind json "string or map")

end FactorialCheck.Strategy
