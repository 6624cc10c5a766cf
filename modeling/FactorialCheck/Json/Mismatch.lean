import FactorialCheck.Json.Description

/-!
# Mismatches

Why a JSON value does not stand for a value of the program.
-/

namespace FactorialCheck.Json

inductive Mismatch where
  /-- The value is of the wrong kind. -/
  | wrongKind (json : Json) (expected : String)
  /-- The value is of the right kind but does not do. -/
  | unfit (json : Json) (expected : String)
  /-- An array has the wrong number of items. -/
  | length (count : Nat) (expected : String)
  | missingField (name : String)
  | unknownVariant (name : String) (expected : List String)
  deriving Repr

namespace Mismatch

def message : Mismatch → String
  | .wrongKind json expected => "invalid type: " ++ json.describe ++ ", expected " ++ expected
  | .unfit json expected => "invalid value: " ++ json.describe ++ ", expected " ++ expected
  | .length count expected => "invalid length " ++ count.repr ++ ", expected " ++ expected
  | .missingField name => "missing field `" ++ name ++ "`"
  | .unknownVariant name expected =>
    "unknown variant `" ++ name ++ "`, expected one of "
      ++ ", ".intercalate (expected.map fun name => "`" ++ name ++ "`")

end Mismatch

end FactorialCheck.Json
