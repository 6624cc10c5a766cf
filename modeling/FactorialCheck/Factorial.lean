import FactorialCheck.Failure
import FactorialCheck.Strategy

/-!
# Three computations of a factorial

The recursion and the two counting loops are written over any monad, so that
what they visit on the way can be watched.
-/

namespace FactorialCheck

/-- Counting up towards a larger word does not overflow. -/
theorem toInt_succ {i n : Int64} (h : i < n) : (i + 1).toInt = i.toInt + 1 := by
  have hlt := Int64.lt_iff_toInt_lt.mp h
  have hi := i.le_toInt
  have hn := n.toInt_lt
  rw [Int64.toInt_add]
  exact Int.bmod_eq_of_le (by simp; omega) (by simp; omega)

/-- Counting down from a larger word does not overflow. -/
theorem toInt_pred {i n : Int64} (h : i < n) : (n - 1).toInt = n.toInt - 1 := by
  have hlt := Int64.lt_iff_toInt_lt.mp h
  have hi := i.le_toInt
  have hn := n.toInt_lt
  rw [Int64.toInt_sub]
  exact Int.bmod_eq_of_le (by simp; omega) (by simp; omega)

namespace Factorial

/-- Deepest recursion that is accepted. -/
def recursionLimit : Int64 := 1000

section Control

variable {m : Type → Type} [Monad m]

/-- The recursion ends at 0 and at 1. -/
def isBase (n : Int64) : Bool :=
  n == 0 || n == 1

theorem pos_of_not_isBase {n : Int64} (h : 0 ≤ n) (hbase : isBase n = false) :
    0 < n := by
  have hle := Int64.le_iff_toInt_le.mp h
  apply Int64.lt_iff_toInt_lt.mpr
  have hne : n ≠ 0 := by
    intro heq
    simp [isBase, heq] at hbase
  have hint : n.toInt ≠ (0 : Int64).toInt := fun heq => hne (Int64.toInt_inj.mp heq)
  omega

/--
Steps down from `n` to a base case, which yields 0; nothing is multiplied on
the way back. `visit` sees the argument of every call.
-/
def descend (visit : Int64 → m PUnit) (n : Int64) (h : 0 ≤ n) : m UInt64 := do
  visit n
  if hbase : isBase n = true then
    pure 0
  else
    have hpos := pos_of_not_isBase h (by simpa using hbase)
    descend visit (n - 1) (by
      have hlt := Int64.lt_iff_toInt_lt.mp hpos
      have hpred := toInt_pred hpos
      apply Int64.le_iff_toInt_le.mpr
      simp only [Int64.toInt_zero] at hlt ⊢
      omega)
termination_by n.toInt.toNat
decreasing_by
  have hlt := Int64.lt_iff_toInt_lt.mp hpos
  have hpred := toInt_pred hpos
  simp only [Int64.toInt_zero] at hlt
  omega

/-- Runs `body` at `i`, `i + 1`, … as long as the counter is below `n`. -/
def countWhile (n : Int64) (body : Int64 → UInt64 → m UInt64)
    (i : Int64) (product : UInt64) : m UInt64 :=
  if h : i < n then do
    let next ← body i product
    countWhile n body (i + 1) next
  else
    pure product
termination_by (n.toInt - i.toInt).toNat
decreasing_by
  have hlt := Int64.lt_iff_toInt_lt.mp h
  have hsucc := toInt_succ h
  omega

/-- Runs `body` at as many counters as are left, `i` the first of them. -/
def countFor (body : Int64 → UInt64 → m UInt64) :
    Nat → Int64 → UInt64 → m UInt64
  | 0, _, product => pure product
  | left + 1, i, product => do
    let next ← body i product
    countFor body left (i + 1) next

/--
The recursive computation, which `visit` watches. A negative input would never
reach a base case and is rejected.
-/
def recursiveVisiting (visit : Int64 → m PUnit) (n : Int64) :
    ExceptT Failure m UInt64 :=
  if hneg : n < 0 then
    throw (.invalidInput n)
  else if recursionLimit < n then
    throw (.recursionLimit n recursionLimit)
  else
    ExceptT.lift (descend visit n (Int64.not_lt.mp hneg))

end Control

/--
Multiplies the product of the numbers up to `i` by `i + 1`. A product that does
not fit is refused on behalf of the input `n`.
-/
def step (n i : Int64) (product : UInt64) : Except Failure UInt64 :=
  let factor := i.toUInt64 + 1
  if product.toNat * factor.toNat < UInt64.size then .ok (product * factor)
  else .error (.overflow n)

/-- Yields 0 for every input it accepts. -/
def recursive (n : Int64) : Except Failure UInt64 :=
  (recursiveVisiting (fun _ => (pure () : Id PUnit)) n).run.run

/-- Product of `2..n` by a loop with a condition; 1 when `n ≤ 1`. -/
def iterativeWhile (n : Int64) : Except Failure UInt64 :=
  countWhile n (step n) 1 1

/-- Product of `2..n` by a loop over the counters from 1 up to `n`; 1 when `n ≤ 1`. -/
def iterativeFor (n : Int64) : Except Failure UInt64 :=
  countFor (step n) (n.toInt - 1).toNat 1 1

end Factorial

/-- The computation that a strategy names. -/
def Strategy.compute : Strategy → Int64 → Except Failure UInt64
  | .recursive => Factorial.recursive
  | .whileLoop => Factorial.iterativeWhile
  | .forLoop => Factorial.iterativeFor

end FactorialCheck
