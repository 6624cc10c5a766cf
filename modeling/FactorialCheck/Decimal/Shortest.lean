import FactorialCheck.Decimal.Basic

/-!
# Shortest decimals

The shortest decimal that reads back as a given double. The reals that round to
the double form an interval; of the decimal grids `10 ^ p` the coarsest with a
point inside it is taken, and on that grid the point nearest to the double.
-/

namespace FactorialCheck.Decimal

/--
A positive double `mantissa * 2 ^ exponent`. It is `narrow` below when the next
smaller double is only half as far away as the next larger one.
-/
structure Binary where
  mantissa : Nat
  exponent : Int
  narrow : Bool
  deriving DecidableEq, Repr

namespace Binary

/-- Reads the exponent and the fraction of a finite double. -/
def ofBits (bits : UInt64) : Binary :=
  let fraction := (bits &&& 0xfffffffffffff).toNat
  let biased := (bits >>> 52 &&& 0x7ff).toNat
  if biased = 0 then ⟨fraction, -1074, false⟩
  else ⟨0x10000000000000 + fraction, (biased : Int) - 1075, fraction = 0 && 1 < biased⟩

/-- Grid step `10 ^ p` and a quarter of the last binary place, on one scale. -/
def steps (b : Binary) (p : Int) : Nat × Nat :=
  let place := b.exponent - 2
  (Nat.pow 10 p.toNat * Nat.pow 2 (-place).toNat, Nat.pow 2 place.toNat * Nat.pow 10 (-p).toNat)

/-- Whether the grid point `x * 10 ^ p` rounds to the double; the ends do iff it is even. -/
def holds (b : Binary) (p : Int) (x : Nat) : Bool :=
  let (grid, quarter) := b.steps p
  let low := (4 * b.mantissa - if b.narrow then 1 else 2) * quarter
  let high := (4 * b.mantissa + 2) * quarter
  if b.mantissa % 2 = 0 then low ≤ x * grid && x * grid ≤ high
  else low < x * grid && x * grid < high

/-- The point of the grid `10 ^ p` that stands for the double, if one does. -/
def point? (b : Binary) (p : Int) : Option Nat :=
  let (grid, quarter) := b.steps p
  let value := 4 * b.mantissa * quarter
  let below := value / grid
  let above := below + 1
  let fits := 0 < below && b.holds p below
  if fits && b.holds p above then
    let down := value - below * grid
    let up := above * grid - value
    some (if down < up || down = up && below % 2 = 0 then below else above)
  else if fits then some below
  else if b.holds p above then some above
  else none

/-- Exponents of the grids, from coarse to fine; the last is finer than any double's interval. -/
def grids : List Int :=
  (List.range 634).map fun (k : Nat) => 309 - (k : Int)

/-- Digits and exponent of the shortest decimal. -/
def shortest (b : Binary) : Nat × Int :=
  (grids.findSome? fun p => (b.point? p).map (·, p)).getD (0, 0)

end Binary

/-- The decimal with the fewest digits that reads back as the double. -/
def shortest (value : Float) : Decimal :=
  let bits := value.toBits
  let negative := bits >>> 63 == 1
  if bits <<< 1 = 0 then ⟨negative, 0, 0⟩
  else
    let (significand, exponent) := (Binary.ofBits bits).shortest
    ⟨negative, significand, exponent⟩

end FactorialCheck.Decimal
