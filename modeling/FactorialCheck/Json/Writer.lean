import FactorialCheck.Json.Basic

/-!
# Compact JSON text

No blanks, and only quotes, backslashes and control characters escaped.
-/

namespace FactorialCheck.Json

/-- A 16-bit unit as four hexadecimal digits. -/
def unitDigits (unit : Nat) : List Char :=
  [unit / 4096, unit / 256, unit / 16, unit].map fun n => Nat.digitChar (n % 16)

def escape (c : Char) : List Char :=
  if c = '"' then ['\\', '"']
  else if c = '\\' then ['\\', '\\']
  else if c = '\n' then ['\\', 'n']
  else if c = '\r' then ['\\', 'r']
  else if c = '\t' then ['\\', 't']
  else if c.toNat < 32 then '\\' :: 'u' :: unitDigits c.toNat
  else [c]

def quote (text : String) : List Char :=
  '"' :: text.toList.flatMap escape ++ ['"']

mutual

def chars : Json → List Char
  | .null => "null".toList
  | .bool true => "true".toList
  | .bool false => "false".toList
  | .integer n => n.repr.toList
  | .real d => d.chars
  | .string text => quote text
  | .array items => '[' :: itemChars items ++ [']']
  | .object entries => '{' :: entryChars entries ++ ['}']

def itemChars : List Json → List Char
  | [] => []
  | [item] => chars item
  | item :: rest => chars item ++ ',' :: itemChars rest

def entryChars : List (String × Json) → List Char
  | [] => []
  | [(key, value)] => quote key ++ ':' :: chars value
  | (key, value) :: rest => quote key ++ ':' :: chars value ++ ',' :: entryChars rest

end

/-- The compact text of a value. -/
def compact (value : Json) : String :=
  String.ofList (chars value)

end FactorialCheck.Json
