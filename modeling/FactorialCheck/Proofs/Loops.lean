import FactorialCheck.Factorial
import Mathlib.Data.Nat.Factorial.Basic

/-!
# The counting loops

Both loops yield the factorial of every input whose factorial fits into 64 bits
and refuse every other input. The counters they run a step at are noted down on
the way; none of them is above 20.
-/

namespace FactorialCheck.Factorial

open scoped Nat

/-- The loop with a condition runs the same steps as the loop over the counters. -/
theorem countWhile_eq_countFor {m : Type → Type} [Monad m]
    (body : Int64 → UInt64 → m UInt64) (n i : Int64) (product : UInt64) :
    countWhile n body i product =
      countFor body (n.toInt - i.toInt).toNat i product := by
  obtain ⟨left, hleft⟩ : ∃ left, left = (n.toInt - i.toInt).toNat := ⟨_, rfl⟩
  rw [← hleft]
  induction left generalizing i product with
  | zero =>
    have hge : ¬ i < n := by
      rw [Int64.lt_iff_toInt_lt]
      omega
    rw [countWhile, dif_neg hge, countFor]
  | succ left ih =>
    have hlt : i < n := by
      rw [Int64.lt_iff_toInt_lt]
      omega
    have hsucc := toInt_succ hlt
    rw [countWhile, dif_pos hlt, countFor]
    congr 1
    funext next
    exact ih (i + 1) next (by omega)

theorem iterativeWhile_eq_iterativeFor (n : Int64) : iterativeWhile n = iterativeFor n :=
  countWhile_eq_countFor (step n) n 1 1

/-! ## One step -/

/-- The number `value`, computed for the input `n`, if it fits into 64 bits. -/
def fitting (n : Int64) (value : Nat) : Except Failure UInt64 :=
  if value < UInt64.size then .ok (.ofNat value) else .error (.overflow n)

/-- The counter `i` and the product are those before step `k`. -/
structure Reached (k : Nat) (i : Int64) (product : UInt64) : Prop where
  counter : i.toInt = k
  factorial : product.toNat = k !

theorem reached_one : Reached 1 1 1 :=
  ⟨rfl, rfl⟩

theorem factorial_lt_size_iff (k : Nat) : k ! < UInt64.size ↔ k ≤ 20 := by
  constructor
  · intro hlt
    by_contra hgt
    have hle : 21 ! ≤ k ! := Nat.factorial_le (by omega)
    have hbig : UInt64.size ≤ 21 ! := by decide
    omega
  · intro hle
    have hfactorial : k ! ≤ 20 ! := Nat.factorial_le hle
    have hsmall : 20 ! < UInt64.size := by decide
    omega

theorem fitting_factorial_of_le {n : Int64} {k : Nat} (h : k ≤ 20) :
    fitting n k ! = .ok (.ofNat k !) :=
  if_pos ((factorial_lt_size_iff k).mpr h)

theorem fitting_factorial_of_lt {n : Int64} {k : Nat} (h : 20 < k) :
    fitting n k ! = .error (.overflow n) := by
  refine if_neg fun hlt => ?_
  have hle := (factorial_lt_size_iff k).mp hlt
  omega

/-- The counter of a step is the number before its factor. -/
theorem toNat_factor {i : Int64} {k : Nat} (hi : i.toInt = k) :
    (i.toUInt64 + 1).toNat = k + 1 := by
  have hlt := i.toInt_lt
  have hnonneg : 0 ≤ i := by
    rw [Int64.le_iff_toInt_le, hi]
    exact Int.natCast_nonneg k
  have hnat : i.toUInt64.toNat = k := by
    rw [Int64.toNat_toUInt64_of_le hnonneg, Int64.toNatClampNeg, hi, Int.toNat_natCast]
  rw [UInt64.toNat_add, hnat]
  exact Nat.mod_eq_of_lt (by simp; omega)

namespace Reached

variable {k : Nat} {i n : Int64} {product : UInt64}

theorem eq_ofNat (h : Reached k i product) : Int64.ofNat k = i := by
  have hlt := i.toInt_lt
  have hi := h.counter
  apply Int64.toInt_inj.mp
  rw [hi, Int64.toInt_ofNat_of_lt (by omega)]

theorem step_eq (h : Reached k i product) : step n i product = fitting n (k + 1)! := by
  have hvalue : product.toNat * (i.toUInt64 + 1).toNat = (k + 1)! := by
    rw [h.factorial, toNat_factor h.counter, Nat.factorial_succ, Nat.mul_comm]
  have hword : product * (i.toUInt64 + 1) = UInt64.ofNat (k + 1)! := by
    rw [← hvalue, UInt64.ofNat_mul, UInt64.ofNat_toNat, UInt64.ofNat_toNat]
  simp only [step, fitting, hvalue, hword]

theorem succ (h : Reached k i product) (hk : k + 1 ≤ 20) :
    Reached (k + 1) (i + 1) (.ofNat (k + 1)!) := by
  have hi := h.counter
  constructor
  · have hlt : i < 20 := by
      rw [Int64.lt_iff_toInt_lt, hi]
      exact Int.ofNat_lt.mpr hk
    rw [toInt_succ hlt, hi]
    rfl
  · exact UInt64.toNat_ofNat_of_lt' ((factorial_lt_size_iff _).mpr hk)

end Reached

/-! ## The counters on the way -/

/-- A loop body that also notes down the counter it is run at. -/
def noting (body : Int64 → UInt64 → Except Failure UInt64) (i : Int64) (product : UInt64) :
    ExceptT Failure (StateM (List Int64)) UInt64 := do
  modify (· ++ [i])
  ExceptT.mk (pure (body i product))

section Noting

variable {body : Int64 → UInt64 → Except Failure UInt64} {i : Int64} {product : UInt64}
  (rest : UInt64 → ExceptT Failure (StateM (List Int64)) UInt64) (noted : List Int64)

theorem noting_bind_ok {next : UInt64} (h : body i product = .ok next) :
    (noting body i product >>= rest).run.run noted = (rest next).run.run (noted ++ [i]) := by
  rw [noting, h]
  rfl

theorem noting_bind_error {failure : Failure} (h : body i product = .error failure) :
    (noting body i product >>= rest).run.run noted = (.error failure, noted ++ [i]) := by
  rw [noting, h]
  rfl

end Noting

/-- Noting the counters down changes no result. -/
theorem fst_countFor_noting (body : Int64 → UInt64 → Except Failure UInt64)
    (left : Nat) (i : Int64) (product : UInt64) (noted : List Int64) :
    ((countFor (noting body) left i product).run.run noted).1 =
      countFor body left i product := by
  induction left generalizing i product noted with
  | zero => rfl
  | succ left ih =>
    rw [countFor, countFor]
    cases hbody : body i product with
    | error failure =>
      rw [noting_bind_error _ _ hbody]
      rfl
    | ok next =>
      rw [noting_bind_ok _ _ hbody]
      exact ih (i + 1) next (noted ++ [i])

/-- The next counters from `k` on, `left` of them at most and none above 20. -/
def countersFrom (k left : Nat) : List Int64 :=
  (List.range' k (min left (21 - k))).map Int64.ofNat

theorem countersFrom_succ {k : Nat} (left : Nat) (hk : k ≤ 20) :
    countersFrom k (left + 1) = Int64.ofNat k :: countersFrom (k + 1) left := by
  have hmin : min (left + 1) (21 - k) = min left (21 - (k + 1)) + 1 := by omega
  rw [countersFrom, countersFrom, hmin, List.range'_succ, List.map_cons]

theorem toInt_of_mem_countersFrom {k left : Nat} {i : Int64}
    (h : i ∈ countersFrom k left) : ∃ j : Nat, k ≤ j ∧ j ≤ 20 ∧ i.toInt = j := by
  obtain ⟨j, hj, rfl⟩ := List.mem_map.mp h
  have hrange := List.mem_range'_1.mp hj
  refine ⟨j, hrange.1, by omega, ?_⟩
  exact Int64.toInt_ofNat_of_lt (by omega)

/--
From step `k` on the loop runs until its counters are used up or the first
product does not fit, which is at counter 20.
-/
theorem countFor_noting_step {k : Nat} {n i : Int64} {product : UInt64} (left : Nat)
    (noted : List Int64) (h : Reached k i product) (hk : k ≤ 20) :
    (countFor (noting (step n)) left i product).run.run noted =
      (fitting n (k + left)!, noted ++ countersFrom k left) := by
  induction left generalizing k i product noted with
  | zero =>
    have hproduct : product = .ofNat k ! := by
      rw [← h.factorial, UInt64.ofNat_toNat]
    have hnone : countersFrom k 0 = [] := by
      rw [countersFrom, Nat.zero_min]
      rfl
    rw [Nat.add_zero, fitting_factorial_of_le hk, hproduct, hnone, List.append_nil]
    rfl
  | succ left ih =>
    rw [countFor, countersFrom_succ left hk, h.eq_ofNat]
    by_cases hnext : k + 1 ≤ 20
    · rw [noting_bind_ok _ _ (h.step_eq.trans (fitting_factorial_of_le hnext)),
        ih _ (h.succ hnext) hnext, List.append_assoc, Nat.add_assoc, Nat.add_comm 1 left]
      rfl
    · rw [noting_bind_error _ _ (h.step_eq.trans (fitting_factorial_of_lt (by omega))),
        fitting_factorial_of_lt (by omega)]
      have hnone : countersFrom (k + 1) left = [] := by
        have hmin : min left (21 - (k + 1)) = 0 := by omega
        rw [countersFrom, hmin]
        rfl
      rw [hnone]

/-! ## Whole loops -/

theorem countFor_noting_from_one (n : Int64) :
    (countFor (noting (step n)) (n.toInt - 1).toNat 1 1).run.run [] =
      (fitting n (max n.toInt 1).toNat !, countersFrom 1 (n.toInt - 1).toNat) := by
  have hlast : (max n.toInt 1).toNat = 1 + (n.toInt - 1).toNat := by omega
  rw [countFor_noting_step _ _ reached_one (by decide), hlast, List.nil_append]

theorem iterativeFor_eq_fitting (n : Int64) :
    iterativeFor n = fitting n (max n.toInt 1).toNat ! := by
  rw [iterativeFor, ← fst_countFor_noting (step n) _ 1 1 [], countFor_noting_from_one]

/--
Both loops end with the factorial of the input, which is that of 1 if the input
is smaller, or refuse the input if the factorial does not fit. Every step is
taken at a counter from 1 to 20, where neither the next counter nor the factor
overflows.
-/
theorem loops_compute_factorial (n : Int64) :
    iterativeFor n = iterativeWhile n ∧
    (if (max n.toInt 1).toNat ! ≤ UInt64.size - 1 then
      ∃ value, iterativeFor n = .ok value ∧ value.toNat = (max n.toInt 1).toNat !
      else iterativeFor n = .error (.overflow n)) ∧
    ∃ counters,
      (countFor (noting (step n)) (n.toInt - 1).toNat 1 1).run.run [] =
        (iterativeFor n, counters) ∧
      (countWhile n (noting (step n)) 1 1).run.run [] = (iterativeWhile n, counters) ∧
      ∀ i ∈ counters, 1 ≤ i ∧ i ≤ 20 ∧ (i + 1).toInt = i.toInt + 1 ∧
        (i.toUInt64 + 1).toNat = i.toInt.toNat + 1 := by
  have hresult := iterativeFor_eq_fitting n
  have hrun := countFor_noting_from_one n
  refine ⟨(iterativeWhile_eq_iterativeFor n).symm, ?_,
    countersFrom 1 (n.toInt - 1).toNat, ?_, ?_, ?_⟩
  · split
    · rename_i hfits
      have hlt : (max n.toInt 1).toNat ! < UInt64.size :=
        Nat.lt_of_le_sub_one (by decide) hfits
      exact ⟨_, hresult.trans (if_pos hlt), UInt64.toNat_ofNat_of_lt' hlt⟩
    · rename_i hlarge
      exact hresult.trans (if_neg fun hlt => hlarge (Nat.le_sub_one_of_lt hlt))
  · rw [hrun, hresult]
  · rw [countWhile_eq_countFor, iterativeWhile_eq_iterativeFor, hresult]
    exact hrun
  · intro i hi
    obtain ⟨j, hge, hle, hcounter⟩ := toInt_of_mem_countersFrom hi
    have hlt : i < 21 := by
      rw [Int64.lt_iff_toInt_lt, hcounter]
      exact Int.ofNat_lt.mpr (show j < 21 by omega)
    refine ⟨?_, ?_, toInt_succ hlt, ?_⟩
    · rw [Int64.le_iff_toInt_le, hcounter]
      exact Int.ofNat_le.mpr hge
    · rw [Int64.le_iff_toInt_le, hcounter]
      exact Int.ofNat_le.mpr hle
    · rw [toNat_factor hcounter, hcounter, Int.toNat_natCast]

end FactorialCheck.Factorial
