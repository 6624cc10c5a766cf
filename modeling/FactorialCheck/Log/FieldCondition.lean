import FactorialCheck.Pattern

/-!
# Field conditions

A directive may ask for a field of a span, and for the value that the field has
to have: a number, or a pattern that the value has to match.
-/

namespace FactorialCheck.Log

/-- What is left behind a sign, if there is one. -/
def dropSign : List Char → List Char
  | '+' :: rest => rest
  | '-' :: rest => rest
  | cs => cs

/-- Whether characters are an exponent with its sign, or none at all. -/
def isExponent : List Char → Bool
  | [] => true
  | c :: rest =>
    let digits := dropSign rest
    (c == 'e' || c == 'E') && !digits.isEmpty && digits.all Char.isDigit

/-- Whether characters are digits, in which a point may stand, and an exponent. -/
def isDecimal (cs : List Char) : Bool :=
  let whole := cs.takeWhile Char.isDigit
  match cs.dropWhile Char.isDigit with
  | '.' :: rest =>
    let fraction := rest.takeWhile Char.isDigit
    !(whole ++ fraction).isEmpty && isExponent (rest.dropWhile Char.isDigit)
  | rest => !whole.isEmpty && isExponent rest

/-- Names of what is a number without having digits. -/
def numberNames : List (List Char) :=
  ["inf".toList, "infinity".toList, "nan".toList]

/-- Whether characters are a number. -/
def isNumber (cs : List Char) : Bool :=
  let unsigned := dropSign cs
  isDecimal unsigned || numberNames.contains (unsigned.map Char.toLower)

/-- What a field has to be called, and the value that it has to have. -/
structure FieldCondition where
  name : String
  value : Option String
  deriving DecidableEq, Repr

namespace FieldCondition

/-- Checks a value, which must be a pattern if it is no number. -/
def checkValue (value : List Char) : Except Pattern.Rejection Unit :=
  if isNumber value then .ok () else Pattern.check value

/-- Reads a name, or a name and a value between which an equals sign stands. -/
def ofText (text : String) : Except Pattern.Rejection FieldCondition :=
  let cs := text.toList
  let name := String.ofList (cs.takeWhile (· ≠ '='))
  match cs.dropWhile (· ≠ '=') with
  | [] => .ok ⟨name, none⟩
  | _ :: more => do
    let value := more.takeWhile (· ≠ '=')
    checkValue value
    .ok ⟨name, some (String.ofList value)⟩

end FieldCondition

end FactorialCheck.Log
