import FactorialCheck.Check
import FactorialCheck.Proofs.Loops
import FactorialCheck.Proofs.Recursion

/-!
# The check

A check compares three results that are all there exactly for the inputs from 0
to 20, and then never agree. Every other input fails at the first of the three
computations that does not accept it.
-/

namespace FactorialCheck

open Factorial
open scoped Nat

namespace Factorial

/-- The loops yield 1 for inputs below 1, and so does the factorial. -/
theorem factorial_max_one (n : Int64) : (max n.toInt 1).toNat ! = n.toInt.toNat ! := by
  rcases Nat.eq_zero_or_pos n.toInt.toNat with hzero | hpos
  · have hone : (max n.toInt 1).toNat = 1 := by omega
    rw [hone, hzero]
    rfl
  · have hsame : (max n.toInt 1).toNat = n.toInt.toNat := by omega
    rw [hsame]

theorem toNat_le_twenty {n : Int64} (h : n ≤ 20) : n.toInt.toNat ≤ 20 := by
  have hint := Int64.le_iff_toInt_le.mp h
  have htwenty : (20 : Int64).toInt = 20 := rfl
  omega

theorem iterativeFor_of_le {n : Int64} (h : n ≤ 20) :
    iterativeFor n = .ok (.ofNat n.toInt.toNat !) := by
  rw [iterativeFor_eq_fitting, factorial_max_one]
  exact fitting_factorial_of_le (toNat_le_twenty h)

theorem iterativeFor_of_lt {n : Int64} (h : 20 < n) :
    iterativeFor n = .error (.overflow n) := by
  have hint := Int64.lt_iff_toInt_lt.mp h
  have htwenty : (20 : Int64).toInt = 20 := rfl
  rw [iterativeFor_eq_fitting, factorial_max_one]
  exact fitting_factorial_of_lt (by omega)

theorem toNat_ofNat_factorial {n : Int64} (h : n ≤ 20) :
    (UInt64.ofNat n.toInt.toNat !).toNat = n.toInt.toNat ! :=
  UInt64.toNat_ofNat_of_lt' ((factorial_lt_size_iff _).mpr (toNat_le_twenty h))

end Factorial

/-! ## What a check does on each range of inputs -/

/-- The report on an input from 0 to 20. -/
def factorialReport (n : Int64) : Report :=
  ⟨n, 0, .ofNat n.toInt.toNat !, .ofNat n.toInt.toNat !⟩

theorem check_of_neg {n : Int64} (h : n < 0) :
    check n = ⟨[], .error (.invalidInput n)⟩ := by
  rw [check, Strategy.compute, recursive_of_neg h]
  rfl

theorem check_of_limit_lt {n : Int64} (h : recursionLimit < n) :
    check n = ⟨[], .error (.recursionLimit n recursionLimit)⟩ := by
  rw [check, Strategy.compute, recursive_of_limit_lt h]
  rfl

theorem check_of_overflow {n : Int64} (h : 20 < n) (hlimit : n ≤ recursionLimit) :
    check n = ⟨[], .error (.overflow n)⟩ := by
  have hnonneg : 0 ≤ n := Int64.le_of_lt (Int64.lt_trans (by decide) h)
  simp only [check, Strategy.compute, recursive_of_accepted hnonneg hlimit, iterativeFor_of_lt h]
  rfl

theorem check_of_fits {n : Int64} (hnonneg : 0 ≤ n) (h : n ≤ 20) :
    check n =
      ⟨[.computed .recursive n 0, .computed .forLoop n (.ofNat n.toInt.toNat !),
        .computed .whileLoop n (.ofNat n.toInt.toNat !), .finished (factorialReport n)],
       .ok (factorialReport n)⟩ := by
  have hlimit : n ≤ recursionLimit := Int64.le_trans h (by decide)
  simp only [check, Strategy.compute, recursive_of_accepted hnonneg hlimit,
    iterativeWhile_eq_iterativeFor, iterativeFor_of_le h]
  rfl

/-- The ranges of inputs that a check tells apart. -/
theorem input_cases (n : Int64) :
    n < 0 ∨ 0 ≤ n ∧ n ≤ 20 ∨ 20 < n ∧ n ≤ recursionLimit ∨ recursionLimit < n := by
  by_cases hneg : n < 0
  · exact .inl hneg
  · by_cases hfits : n ≤ 20
    · exact .inr (.inl ⟨Int64.not_lt.mp hneg, hfits⟩)
    · by_cases hlimit : n ≤ recursionLimit
      · exact .inr (.inr (.inl ⟨Int64.not_le.mp hfits, hlimit⟩))
      · exact .inr (.inr (.inr (Int64.not_le.mp hlimit)))

theorem check_fails_of_outside {n : Int64} (h : ¬ (0 ≤ n ∧ n ≤ 20)) :
    ∃ failure, check n = ⟨[], .error failure⟩ := by
  rcases input_cases n with hneg | hfits | ⟨hlarge, hlimit⟩ | hlimit
  · exact ⟨_, check_of_neg hneg⟩
  · exact absurd hfits h
  · exact ⟨_, check_of_overflow hlarge hlimit⟩
  · exact ⟨_, check_of_limit_lt hlimit⟩

/-! ## The three computations one after the other -/

theorem result_evaluate (strategy : Strategy) (n : Int64) :
    (evaluate strategy n).result = strategy.compute n := by
  cases h : strategy.compute n with
  | ok value =>
    rw [evaluate, h]
    rfl
  | error failure =>
    rw [evaluate, h]
    rfl

/-- The failure of a result that is none. -/
def failure? {α : Type} : Except Failure α → Option Failure
  | .ok _ => none
  | .error failure => some failure

/-- The first of the three computations that fails decides. -/
theorem result_check_eq_error_iff (n : Int64) (failure : Failure) :
    (check n).result = .error failure ↔
      [Strategy.recursive, .forLoop, .whileLoop].findSome?
        (fun strategy => failure? (evaluate strategy n).result) = some failure := by
  simp only [result_evaluate, List.findSome?]
  rw [check]
  cases Strategy.recursive.compute n with
  | error first => simp [Traced.ofExcept, failure?]
  | ok recursive =>
    cases Strategy.forLoop.compute n with
    | error second => simp [Traced.ofExcept, failure?]
    | ok forLoop =>
      cases Strategy.whileLoop.compute n with
      | error third => simp [Traced.ofExcept, failure?]
      | ok whileLoop => simp [Traced.ofExcept, Traced.emit, failure?]

theorem factorialReport_disagrees {n : Int64} (h : n ≤ 20) :
    (factorialReport n).agrees = false := by
  have hpos := Nat.factorial_pos n.toInt.toNat
  have hword := toNat_ofNat_factorial h
  rw [Bool.eq_false_iff]
  intro hagrees
  have hzero := ((factorialReport n).agrees_iff.mp hagrees).1
  simp only [factorialReport] at hzero
  rw [← hzero] at hword
  simp only [UInt64.toNat_zero] at hword
  omega

/-! ## Every input -/

/-- The report of a check that succeeds is the one on the factorial. -/
theorem result_check_eq_ok_iff (n : Int64) (report : Report) :
    (check n).result = .ok report ↔ (0 ≤ n ∧ n ≤ 20) ∧ report = factorialReport n := by
  by_cases hfits : 0 ≤ n ∧ n ≤ 20
  · rw [check_of_fits hfits.1 hfits.2]
    constructor
    · intro h
      exact ⟨hfits, (Except.ok.inj h).symm⟩
    · rintro ⟨-, rfl⟩
      rfl
  · obtain ⟨failure, hcheck⟩ := check_fails_of_outside hfits
    rw [hcheck]
    constructor
    · intro h
      cases h
    · rintro ⟨hinside, -⟩
      exact absurd hinside hfits

/--
A check succeeds exactly from 0 to 20, where the recursion yields 0 and the
loops the factorial, so that its verdict is always the negative one. Elsewhere
it fails as the first computation does that fails.
-/
theorem check_never_agrees (n : Int64) :
    ((∃ report, (check n).result = .ok report) ↔ 0 ≤ n ∧ n ≤ 20) ∧
    (∀ report, (check n).result = .ok report →
      report.input = n ∧
      report.recursive = 0 ∧ (evaluate .recursive n).result = .ok report.recursive ∧
      report.forLoop.toNat = n.toInt.toNat ! ∧
      (evaluate .forLoop n).result = .ok report.forLoop ∧
      report.whileLoop.toNat = n.toInt.toNat ! ∧
      (evaluate .whileLoop n).result = .ok report.whileLoop ∧
      report.agrees = false ∧ report.message = Report.failure) ∧
    (∀ failure, (check n).result = .error failure ↔
      [Strategy.recursive, .forLoop, .whileLoop].findSome?
        (fun strategy => failure? (evaluate strategy n).result) = some failure) ∧
    (n < 0 →
      (check n).result = .error (.invalidInput n) ∧
      (evaluate .forLoop n).result = .ok 1 ∧ (evaluate .whileLoop n).result = .ok 1) ∧
    (20 < n → n ≤ 1000 → (check n).result = .error (.overflow n)) ∧
    (1000 < n →
      (check n).result = .error (.recursionLimit n 1000) ∧
      (evaluate .forLoop n).result = .error (.overflow n) ∧
      (evaluate .whileLoop n).result = .error (.overflow n)) := by
  have hfor : (evaluate .forLoop n).result = iterativeFor n := result_evaluate .forLoop n
  have hwhile : (evaluate .whileLoop n).result = iterativeFor n :=
    (result_evaluate .whileLoop n).trans (iterativeWhile_eq_iterativeFor n)
  rw [hfor, hwhile]
  refine ⟨?_, ?_, result_check_eq_error_iff n, ?_, ?_, ?_⟩
  · simp only [result_check_eq_ok_iff, exists_and_left, exists_eq, and_true]
  · intro report h
    obtain ⟨⟨hnonneg, hfits⟩, rfl⟩ := (result_check_eq_ok_iff n report).mp h
    have hlimit : n ≤ recursionLimit := Int64.le_trans hfits (by decide)
    have hword := toNat_ofNat_factorial hfits
    have hdisagrees := factorialReport_disagrees hfits
    have hrecursive : (evaluate .recursive n).result = .ok 0 :=
      (result_evaluate .recursive n).trans (recursive_of_accepted hnonneg hlimit)
    refine ⟨rfl, rfl, hrecursive, hword, iterativeFor_of_le hfits, hword,
      iterativeFor_of_le hfits, hdisagrees, ?_⟩
    rw [Report.message, hdisagrees]
    rfl
  · intro hneg
    have hle : n ≤ 20 := Int64.le_of_lt (Int64.lt_trans hneg (by decide))
    have hone : iterativeFor n = .ok 1 := by
      have hzero : n.toInt.toNat = 0 := by
        have hint := Int64.lt_iff_toInt_lt.mp hneg
        have htoInt : (0 : Int64).toInt = 0 := rfl
        omega
      rw [iterativeFor_of_le hle, hzero]
      rfl
    exact ⟨congrArg Traced.result (check_of_neg hneg), hone, hone⟩
  · intro hlarge hlimit
    exact congrArg Traced.result (check_of_overflow hlarge hlimit)
  · intro hlimit
    have hlarge : 20 < n := Int64.lt_trans (by decide) hlimit
    exact ⟨congrArg Traced.result (check_of_limit_lt hlimit), iterativeFor_of_lt hlarge,
      iterativeFor_of_lt hlarge⟩

end FactorialCheck
