import FactorialCheck.Decimal.Basic

/-!
# Layout of a decimal

Where the point of a decimal goes and when an exponent is written.
-/

namespace FactorialCheck

/--
The exponents of the leading digit that are written positionally lie from
`lowest` to `highest`.
-/
structure DecimalLayout where
  lowest : Int
  highest : Int
  deriving DecidableEq, Repr

namespace DecimalLayout

/-- Positional from `0.00001` to below `10 ^ 16`. -/
def plain : DecimalLayout :=
  ⟨-5, 15⟩

/-- An exponent, with its sign even if it is not negative. -/
def signed (exponent : Int) : List Char :=
  (if exponent < 0 then '-' else '+') :: exponent.natAbs.repr.toList

/-- Digits with a point after the first, unless there is only one, and the exponent of the first. -/
def scientific (digits : List Char) (leading : Int) : List Char :=
  let point := if digits.length ≤ 1 then [] else ['.']
  digits.take 1 ++ point ++ digits.drop 1 ++ 'e' :: signed leading

/-- Digits with the point that `leading` asks for; a whole number ends in `.0`. -/
def positional (digits : List Char) (leading : Int) : List Char :=
  if leading < 0 then
    '0' :: '.' :: List.replicate (leading.natAbs - 1) '0' ++ digits
  else
    let whole := leading.toNat + 1
    let fraction := digits.drop whole
    digits.take whole ++ List.replicate (whole - digits.length) '0'
      ++ '.' :: if fraction.isEmpty then ['0'] else fraction

/-- The text of a decimal. -/
def render (layout : DecimalLayout) (d : Decimal) : List Char :=
  let digits := d.significand.repr.toList
  let leading : Int := if d.significand = 0 then 0 else digits.length - 1 + d.exponent
  let sign := if d.negative then ['-'] else []
  if layout.lowest ≤ leading ∧ leading ≤ layout.highest then
    sign ++ positional digits leading
  else
    sign ++ scientific digits leading

end DecimalLayout

end FactorialCheck
