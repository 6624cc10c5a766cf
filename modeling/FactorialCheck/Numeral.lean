/-!
# Numerals

A signed 64-bit numeral is an optional sign and one or more ASCII digits. The
digits are read from left to right, and each is tested for being a digit before
the range is.
-/

namespace FactorialCheck

/-- Why a text is not a numeral. -/
inductive NumeralFault where
  | empty
  | strayCharacter
  | tooLarge
  | tooSmall
  deriving DecidableEq, Repr

namespace NumeralFault

def message : NumeralFault → String
  | .empty => "cannot parse integer from empty string"
  | .strayCharacter => "invalid digit found in string"
  | .tooLarge => "number too large to fit in target type"
  | .tooSmall => "number too small to fit in target type"

end NumeralFault

namespace Numeral

def digit? (c : Char) : Option Nat :=
  if c.isDigit then some (c.toNat - '0'.toNat) else none

/--
The number written by the digits after those that wrote `value`; `beyond` is
the fault of a number above `bound`.
-/
def digits (bound : Nat) (beyond : NumeralFault) :
    Nat → List Char → Except NumeralFault Nat
  | value, [] => .ok value
  | value, c :: rest =>
    match digit? c with
    | none => .error .strayCharacter
    | some d =>
      if 10 * value + d ≤ bound then digits bound beyond (10 * value + d) rest
      else .error beyond

/-- An optional plus sign and digits that write a number of at most `bound`. -/
def unsigned (bound : Nat) : List Char → Except NumeralFault Nat
  | [] => .error .empty
  | ['+'] => .error .strayCharacter
  | '+' :: rest => digits bound .tooLarge 0 rest
  | cs => digits bound .tooLarge 0 cs

/-- A sign, if there is one, and digits. -/
def signed : List Char → Except NumeralFault Int
  | ['-'] => .error .strayCharacter
  | '-' :: rest =>
    (digits Int64.minValue.toInt.natAbs .tooSmall 0 rest).map fun (m : Nat) => -(m : Int)
  | cs => (unsigned Int64.maxValue.toInt.toNat cs).map fun (m : Nat) => (m : Int)

/-- Reads a signed 64-bit numeral. -/
def read (text : String) : Except NumeralFault Int64 :=
  (signed text.toList).map Int64.ofInt

/-- Reads an unsigned 64-bit numeral. -/
def readUnsigned (text : String) : Except NumeralFault UInt64 :=
  (unsigned (UInt64.size - 1) text.toList).map UInt64.ofNat

/-- The canonical numeral of an input. -/
def ofInput (n : Int64) : String :=
  n.toInt.repr

/-- The canonical numeral of a result. -/
def ofResult (value : UInt64) : String :=
  value.toNat.repr

end Numeral

end FactorialCheck
