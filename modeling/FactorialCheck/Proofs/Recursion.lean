import FactorialCheck.Factorial
import Mathlib.Logic.Function.Iterate

/-!
# The recursion

Each input is either rejected by one of the two guards or taken down to 0. The
calls on the way are those of a descent, which there is from every number that is
not negative and from no other.
-/

namespace FactorialCheck.Factorial

/-! ## Descents -/

/--
The recursion without its guards makes these calls from `n` on, ends at a base
case and yields this value. Counting down has to be exact: words that wrapped
around would come back to a base case from anywhere.
-/
inductive Descent : Int64 → List Int64 → UInt64 → Prop where
  | base {n : Int64} (hbase : isBase n = true) : Descent n [n] 0
  | call {n : Int64} {calls : List Int64} {value : UInt64} (hbase : isBase n = false)
      (hexact : (n - 1).toInt = n.toInt - 1) (rest : Descent (n - 1) calls value) :
      Descent n (n :: calls) value

theorem isBase_iff {n : Int64} : isBase n = true ↔ n.toInt = 0 ∨ n.toInt = 1 := by
  rw [isBase, Bool.or_eq_true, beq_iff_eq, beq_iff_eq, ← Int64.toInt_inj, ← Int64.toInt_inj]
  rfl

theorem nonneg_iff {n : Int64} : 0 ≤ n ↔ 0 ≤ n.toInt :=
  Int64.le_iff_toInt_le

namespace Descent

variable {n : Int64} {calls : List Int64} {value : UInt64}

theorem nonneg (h : Descent n calls value) : 0 ≤ n := by
  rw [nonneg_iff]
  induction h with
  | base hbase =>
    have hends := isBase_iff.mp hbase
    omega
  | call hbase hexact rest ih => omega

theorem ne_nil (h : Descent n calls value) : calls ≠ [] := by
  cases h with
  | base => exact List.cons_ne_nil _ _
  | call => exact List.cons_ne_nil _ _

/-- There is one call for each number from `n` down to 1, and one if `n` is 0. -/
theorem length_eq (h : Descent n calls value) : (calls.length : Int) = max n.toInt 1 := by
  induction h with
  | base hbase =>
    have hends := isBase_iff.mp hbase
    simp only [List.length_cons, List.length_nil]
    omega
  | @call n calls value hbase hexact rest ih =>
    -- The rest descends too, so that `n` is at least 1, and 1 itself is a base case.
    have hpred := nonneg_iff.mp rest.nonneg
    have hnext : n.toInt ≠ 1 := by
      intro heq
      rw [isBase_iff.mpr (.inr heq)] at hbase
      cases hbase
    rw [List.length_cons]
    omega

theorem bounds (h : Descent n calls value) : ∀ i ∈ calls, 0 ≤ i ∧ i ≤ n := by
  induction h with
  | @base n hbase =>
    intro i hi
    rw [List.mem_singleton.mp hi]
    exact ⟨(base hbase).nonneg, Int64.le_refl n⟩
  | @call n calls value hbase hexact rest ih =>
    intro i hi
    rcases List.mem_cons.mp hi with rfl | hi
    · exact ⟨(call hbase hexact rest).nonneg, Int64.le_refl i⟩
    · have hle := Int64.le_iff_toInt_le.mp (ih i hi).2
      refine ⟨(ih i hi).1, Int64.le_iff_toInt_le.mpr ?_⟩
      omega

/-- The recursion makes the calls of the descent and no others. -/
theorem descend_eq {m : Type → Type} [Monad m] [LawfulMonad m] (h : Descent n calls value)
    (visit : Int64 → m PUnit) (hnonneg : 0 ≤ n) :
    descend visit n hnonneg = (do forM calls visit; pure value) := by
  induction h with
  | base hbase =>
    rw [descend, List.forM_cons, List.forM_nil, bind_assoc, pure_bind]
    simp only [dif_pos hbase]
  | call hbase hexact rest ih =>
    rw [descend, List.forM_cons, bind_assoc]
    simp only [hbase, Bool.false_eq_true, dite_false, ih rest.nonneg]

end Descent

/-- A descent counts down to a base case from every number that is not negative. -/
theorem exists_descent {n : Int64} (h : 0 ≤ n) : ∃ calls, Descent n calls 0 := by
  induction n, h using descend.induct with
  | case1 n h ih =>
    cases hbase : isBase n with
    | true => exact ⟨[n], .base hbase⟩
    | false =>
      have hexact := toInt_pred (pos_of_not_isBase h hbase)
      obtain ⟨calls, hrest⟩ := ih (by rw [hbase]; exact Bool.false_ne_true)
      exact ⟨n :: calls, .call hbase hexact hrest⟩

theorem exists_descent_iff {n : Int64} : (∃ calls value, Descent n calls value) ↔ 0 ≤ n := by
  constructor
  · rintro ⟨calls, value, h⟩
    exact h.nonneg
  · intro h
    obtain ⟨calls, hcalls⟩ := exists_descent h
    exact ⟨calls, 0, hcalls⟩

/-! ## The guards -/

section Guards

variable {m : Type → Type} [Monad m] (visit : Int64 → m PUnit) {n : Int64}

theorem recursiveVisiting_of_neg (h : n < 0) :
    recursiveVisiting visit n = throw (.invalidInput n) := by
  rw [recursiveVisiting, dif_pos h]

theorem recursiveVisiting_of_limit_lt (h : recursionLimit < n) :
    recursiveVisiting visit n = throw (.recursionLimit n recursionLimit) := by
  have hnonneg : ¬ n < 0 := by
    intro hneg
    exact absurd (Int64.lt_trans h hneg) (by decide)
  rw [recursiveVisiting, dif_neg hnonneg, if_pos h]

theorem recursiveVisiting_of_accepted (hnonneg : 0 ≤ n) (hle : n ≤ recursionLimit) :
    recursiveVisiting visit n = ExceptT.lift (descend visit n hnonneg) := by
  rw [recursiveVisiting, dif_neg (Int64.not_lt.mpr hnonneg), if_neg (Int64.not_lt.mpr hle)]

end Guards

theorem recursive_of_neg {n : Int64} (h : n < 0) :
    recursive n = .error (.invalidInput n) := by
  rw [recursive, recursiveVisiting_of_neg _ h]
  rfl

theorem recursive_of_limit_lt {n : Int64} (h : recursionLimit < n) :
    recursive n = .error (.recursionLimit n recursionLimit) := by
  rw [recursive, recursiveVisiting_of_limit_lt _ h]
  rfl

theorem recursive_of_accepted {n : Int64} (hnonneg : 0 ≤ n) (hle : n ≤ recursionLimit) :
    recursive n = .ok 0 := by
  obtain ⟨calls, hcalls⟩ := exists_descent hnonneg
  rw [recursive, recursiveVisiting_of_accepted _ hnonneg hle, hcalls.descend_eq]
  rfl

/-! ## The calls on the way -/

/-- Notes down the argument of a call. -/
def note (i : Int64) : StateM (List Int64) PUnit :=
  modify (· ++ [i])

theorem run_forM_note (calls noted : List Int64) :
    (forM calls note).run noted = (⟨⟩, noted ++ calls) := by
  induction calls generalizing noted with
  | nil =>
    rw [List.append_nil]
    rfl
  | cons i calls ih =>
    have hstep := ih (noted ++ [i])
    rw [List.append_assoc] at hstep
    rw [List.forM_cons]
    exact hstep

theorem Descent.run_note {n : Int64} {calls : List Int64} {value : UInt64}
    (h : Descent n calls value) (hnonneg : 0 ≤ n) :
    (descend note n hnonneg).run [] = (value, calls) := by
  rw [h.descend_eq, StateT.run_bind, run_forM_note]
  rfl

/-- The recursion behind the guards makes the same calls and yields the same value. -/
theorem descent_iff {n : Int64} {calls : List Int64} {value : UInt64} :
    Descent n calls value ↔ ∃ h : 0 ≤ n, (descend note n h).run [] = (value, calls) := by
  constructor
  · intro h
    exact ⟨h.nonneg, h.run_note h.nonneg⟩
  · rintro ⟨hnonneg, hrun⟩
    obtain ⟨made, hmade⟩ := exists_descent hnonneg
    rw [hmade.run_note] at hrun
    cases hrun
    exact hmade

section Noting

variable {n : Int64}

theorem noting_of_neg (h : n < 0) :
    (recursiveVisiting note n).run.run [] = (recursive n, []) := by
  rw [recursiveVisiting_of_neg _ h, recursive_of_neg h]
  rfl

theorem noting_of_limit_lt (h : recursionLimit < n) :
    (recursiveVisiting note n).run.run [] = (recursive n, []) := by
  rw [recursiveVisiting_of_limit_lt _ h, recursive_of_limit_lt h]
  rfl

theorem noting_of_accepted {calls : List Int64} (hle : n ≤ recursionLimit)
    (h : Descent n calls 0) :
    (recursiveVisiting note n).run.run [] = (recursive n, calls) := by
  rw [recursiveVisiting_of_accepted _ h.nonneg hle, recursive_of_accepted h.nonneg hle,
    ExceptT.run_lift, StateT.run_map, h.run_note]
  rfl

end Noting

/-! ## Below zero -/

/-- The calls count down exactly as long as there are words left. -/
theorem toInt_iterate_pred {n : Int64} {k : Nat} (h : Int64.minValue.toInt ≤ n.toInt - k) :
    ((· - 1)^[k] n).toInt = n.toInt - k := by
  induction k with
  | zero => simp
  | succ k ih =>
    have hbefore := ih (by omega)
    have hlt : Int64.minValue < (· - 1)^[k] n := by
      rw [Int64.lt_iff_toInt_lt, hbefore]
      omega
    rw [Function.iterate_succ_apply', toInt_pred hlt, hbefore]
    omega

theorem ne_base_of_toInt_neg {i : Int64} (h : i.toInt < 0) : i ≠ 0 ∧ i ≠ 1 := by
  constructor
  · rintro rfl
    exact absurd h (by decide)
  · rintro rfl
    exact absurd h (by decide)

/-- Counting down from below zero meets the least word and neither base case. -/
theorem exists_iterate_pred_eq_minValue {n : Int64} (h : n < 0) :
    ∃ last, (· - 1)^[last] n = Int64.minValue ∧
      ∀ k ≤ last, ((· - 1)^[k] n).toInt = n.toInt - k ∧
        (· - 1)^[k] n ≠ 0 ∧ (· - 1)^[k] n ≠ 1 := by
  have hneg : n.toInt < 0 := Int64.lt_iff_toInt_lt.mp h
  have hleast := n.minValue_le_toInt
  -- Counting is exact up to the call at the least word.
  have hexact {k : Nat} (hk : k ≤ (n.toInt - Int64.minValue.toInt).toNat) :
      ((· - 1)^[k] n).toInt = n.toInt - k :=
    toInt_iterate_pred (by omega)
  refine ⟨(n.toInt - Int64.minValue.toInt).toNat, ?_, fun k hk => ⟨hexact hk, ?_⟩⟩
  · rw [← Int64.toInt_inj, hexact (Nat.le_refl _)]
    omega
  · apply ne_base_of_toInt_neg
    rw [hexact hk]
    omega

/-! ## Whole recursions -/

/-- Either no guard rejects the input and it descends, or no call is made. -/
theorem noting_cases (n : Int64) :
    (∃ calls, 0 ≤ n ∧ n ≤ recursionLimit ∧ Descent n calls 0 ∧
      (recursiveVisiting note n).run.run [] = (recursive n, calls)) ∨
    (¬ (0 ≤ n ∧ n ≤ recursionLimit) ∧
      (recursiveVisiting note n).run.run [] = (recursive n, [])) := by
  by_cases hneg : n < 0
  · refine .inr ⟨fun hin => ?_, noting_of_neg hneg⟩
    exact Int64.not_lt.mpr hin.1 hneg
  by_cases hlimit : recursionLimit < n
  · refine .inr ⟨fun hin => ?_, noting_of_limit_lt hlimit⟩
    exact Int64.not_lt.mpr hin.2 hlimit
  have hnonneg := Int64.not_lt.mp hneg
  have hle := Int64.not_lt.mp hlimit
  obtain ⟨calls, hcalls⟩ := exists_descent hnonneg
  exact .inl ⟨calls, hnonneg, hle, hcalls, noting_of_accepted hle hcalls⟩

/--
The recursion descends exactly when neither guard rejects the input. It then makes
one call for each number from the input down to 1, or a single one for 0, and never
nests them deeper than the limit; it counts down exactly at each of them and yields
0. Without the guard on the sign there is no descent from below zero: counting down
meets neither base case before the words run out.
-/
theorem recursion_descends_behind_guards (n : Int64) :
    (∃ calls, (recursiveVisiting note n).run.run [] = (recursive n, calls) ∧
      (calls ≠ [] ↔ 0 ≤ n ∧ n ≤ recursionLimit) ∧
      (0 ≤ n → n ≤ recursionLimit →
        recursive n = .ok 0 ∧ Descent n calls 0 ∧
        (calls.length : Int) = max n.toInt 1 ∧ calls.length ≤ recursionLimit.toInt ∧
        ∀ i ∈ calls, 0 ≤ i ∧ i ≤ n ∧ (i - 1).toInt = i.toInt - 1)) ∧
    (∀ calls value, Descent n calls value ↔
      ∃ h : 0 ≤ n, (descend note n h).run [] = (value, calls)) ∧
    ((∃ calls value, Descent n calls value) ↔ 0 ≤ n) ∧
    (n < 0 → ∃ last, (· - 1)^[last] n = Int64.minValue ∧
      ∀ k ≤ last, ((· - 1)^[k] n).toInt = n.toInt - k ∧
        (· - 1)^[k] n ≠ 0 ∧ (· - 1)^[k] n ≠ 1) := by
  refine ⟨?_, fun calls value => descent_iff, exists_descent_iff,
    exists_iterate_pred_eq_minValue⟩
  rcases noting_cases n with ⟨calls, hnonneg, hle, hcalls, hrun⟩ | ⟨hout, hrun⟩
  · refine ⟨calls, hrun, iff_of_true hcalls.ne_nil ⟨hnonneg, hle⟩, fun _ _ => ?_⟩
    refine ⟨recursive_of_accepted hnonneg hle, hcalls, hcalls.length_eq, ?_, fun i hi => ?_⟩
    · have hlimit := Int64.le_iff_toInt_le.mp hle
      have hone : 1 ≤ recursionLimit.toInt := by decide
      rw [hcalls.length_eq]
      omega
    · obtain ⟨hi, hin⟩ := hcalls.bounds i hi
      have hlt : Int64.minValue < i := Int64.lt_of_lt_of_le (by decide) hi
      exact ⟨hi, hin, toInt_pred hlt⟩
  · refine ⟨[], hrun, iff_of_false (fun hne => hne rfl) hout, fun hnonneg hle => ?_⟩
    exact absurd ⟨hnonneg, hle⟩ hout

end FactorialCheck.Factorial
