import FactorialCheck.Decimal.Layout
import FactorialCheck.Decimal.Shortest
import FactorialCheck.Json.Basic
import FactorialCheck.Text.Quoted

/-!
# Naming a JSON value in a message

A value of the wrong kind is named by its kind and, if it is a scalar, by what
it holds.
-/

namespace FactorialCheck.Json

/-- Integers of the signed or the unsigned 64-bit range are named as integers. -/
def fitsWord (n : Int) : Bool :=
  Int64.minValue.toInt ≤ n && n < UInt64.size

def describeReal (d : Decimal) : String :=
  "floating point `" ++ String.ofList (DecimalLayout.plain.render (.shortest d.toFloat)) ++ "`"

def describe : Json → String
  | .null => "null"
  | .bool true => "boolean `true`"
  | .bool false => "boolean `false`"
  | .integer n =>
    if fitsWord n then "integer `" ++ n.repr ++ "`"
    else describeReal ⟨n < 0, n.natAbs, 0⟩
  | .real d => describeReal d
  | .string text => "string " ++ Quoted.quote text
  | .array _ => "sequence"
  | .object _ => "map"

end FactorialCheck.Json
