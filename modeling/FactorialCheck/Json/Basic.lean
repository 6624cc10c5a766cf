import FactorialCheck.Decimal.Basic

/-!
# JSON values

A number without a fraction and an exponent is an integer of any size; the
entries of an object keep their order.
-/

namespace FactorialCheck

inductive Json where
  | null
  | bool (value : Bool)
  | integer (value : Int)
  | real (value : Decimal)
  | string (text : String)
  | array (items : List Json)
  | object (entries : List (String × Json))
  deriving Repr

namespace Json

/-- The value under a key. -/
def entry? (entries : List (String × Json)) (key : String) : Option Json :=
  (entries.find? fun entry => entry.1 == key).map (·.2)

/-- Puts a value under a key: in place of the value there, else at the end. -/
def put (entries : List (String × Json)) (key : String) (value : Json) :
    List (String × Json) :=
  if entries.any fun entry => entry.1 == key then
    entries.map fun entry => if entry.1 == key then (key, value) else entry
  else
    entries ++ [(key, value)]

end Json

end FactorialCheck
