/-!
# Decimal fractions

A number as it is written down: a whole significand and a power of ten.
-/

namespace FactorialCheck

structure Decimal where
  negative : Bool
  significand : Nat
  exponent : Int
  deriving DecidableEq, Repr

namespace Decimal

/--
Drops final digits until the significand fits 64 bits, and counts them into
the exponent.
-/
def cut (significand : Nat) (exponent : Int) : Nat × Int :=
  if h : significand < UInt64.size then (significand, exponent)
  else cut (significand / 10) (exponent + 1)
termination_by significand
decreasing_by
  have : 0 < UInt64.size := by decide
  omega

def powerOfTen (places : Nat) : Float :=
  Float.ofScientific 1 false places

/-- Divides by a power of ten, at most 308 places at a time. -/
def shrink (value : Float) (places : Nat) : Float :=
  if places ≤ 308 then value / powerOfTen places
  else if value == 0 then value
  else shrink (value / powerOfTen 308) (places - 308)
termination_by places

/-- Multiplies by a power of ten; 309 places are more than any double has. -/
def grow (value : Float) (places : Nat) : Float :=
  if value == 0 then value else value * powerOfTen (min places 309)

/--
The double that a decimal is read as: the leading digits that fit 64 bits,
scaled by one multiplication or division of doubles.
-/
def toFloat (d : Decimal) : Float :=
  let (significand, exponent) := cut d.significand d.exponent
  let whole := (UInt64.ofNat significand).toFloat
  let size :=
    if 0 ≤ exponent then grow whole exponent.toNat else shrink whole exponent.natAbs
  if d.negative then -size else size

/-- Writes the significand and the exponent. -/
def chars (d : Decimal) : List Char :=
  (if d.negative then ['-'] else []) ++ d.significand.repr.toList
    ++ 'e' :: d.exponent.repr.toList

end Decimal

end FactorialCheck
