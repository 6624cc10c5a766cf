import FactorialCheck.Numeral
import FactorialCheck.Proofs.Results

/-!
# Numerals and the numbers they denote

A signed 64-bit numeral is read exactly if it is an optional sign and one or
more digits whose number is in range, however many leading zeros there are.
-/

namespace FactorialCheck.Numeral

/-! ## Runs of digits -/

/-- One or more digits and the number they write. -/
structure Digits (cs : List Char) (value : Nat) : Prop where
  ne_nil : cs ≠ []
  isDigit : ∀ c ∈ cs, c.isDigit = true
  value_eq : Nat.ofDigitChars 10 cs 0 = value

theorem digit?_of_isDigit {c : Char} (h : c.isDigit = true) :
    digit? c = some (c.toNat - '0'.toNat) :=
  if_pos h

theorem digit?_of_not_isDigit {c : Char} (h : ¬ c.isDigit = true) : digit? c = none :=
  if_neg h

/-- More digits never write a smaller number. -/
theorem le_ofDigitChars (cs : List Char) (start : Nat) :
    start ≤ Nat.ofDigitChars 10 cs start := by
  induction cs generalizing start with
  | nil => exact Nat.le_of_eq Nat.ofDigitChars_nil.symm
  | cons c rest ih =>
    rw [Nat.ofDigitChars_cons]
    have hle := ih (10 * start + (c.toNat - '0'.toNat))
    omega

/--
Digits are read exactly if their number is in range: no number on the way is
above the last one, so the range is never left too early.
-/
theorem digits_eq_ok_iff (bound : Nat) (beyond : NumeralFault) {cs : List Char}
    {start value : Nat} (hstart : start ≤ bound) :
    digits bound beyond start cs = .ok value ↔
      (∀ c ∈ cs, c.isDigit = true) ∧ Nat.ofDigitChars 10 cs start = value ∧ value ≤ bound := by
  induction cs generalizing start with
  | nil =>
    simp only [digits, Except.ok.injEq, Nat.ofDigitChars_nil]
    constructor
    · rintro rfl
      exact ⟨by simp, rfl, hstart⟩
    · rintro ⟨-, heq, -⟩
      exact heq
  | cons c rest ih =>
    by_cases hdigit : c.isDigit = true
    · rw [Nat.ofDigitChars_cons, List.forall_mem_cons]
      simp only [digits, digit?_of_isDigit hdigit]
      by_cases hle : 10 * start + (c.toNat - '0'.toNat) ≤ bound
      · rw [if_pos hle, ih hle]
        simp only [hdigit, true_and]
      · rw [if_neg hle]
        constructor
        · intro h
          cases h
        · rintro ⟨-, heq, hbound⟩
          have hgrow := le_ofDigitChars rest (10 * start + (c.toNat - '0'.toNat))
          omega
    · simp only [digits, digit?_of_not_isDigit hdigit]
      constructor
      · intro h
        cases h
      · rintro ⟨hall, -, -⟩
        exact absurd (hall c (List.mem_cons_self ..)) hdigit

/-! ## Signs -/

/-- An optional sign and digits, and the number they denote. -/
inductive Writes : List Char → Int → Prop where
  | unsigned {cs : List Char} {value : Nat} : Digits cs value → Writes cs value
  | plus {cs : List Char} {value : Nat} : Digits cs value → Writes ('+' :: cs) value
  | minus {cs : List Char} {value : Nat} : Digits cs value → Writes ('-' :: cs) (-value)

/-- The text is a numeral of the 64-bit number `n`. -/
def Denotes (text : String) (n : Int64) : Prop :=
  Writes text.toList n.toInt

theorem digits_zero_eq_ok_iff (bound : Nat) (beyond : NumeralFault) {cs : List Char} {value : Nat}
    (hne : cs ≠ []) :
    digits bound beyond 0 cs = .ok value ↔ Digits cs value ∧ value ≤ bound := by
  rw [digits_eq_ok_iff bound beyond (Nat.zero_le bound)]
  constructor
  · rintro ⟨hall, heq, hle⟩
    exact ⟨⟨hne, hall, heq⟩, hle⟩
  · rintro ⟨hdigits, hle⟩
    exact ⟨hdigits.isDigit, hdigits.value_eq, hle⟩

theorem Digits.head_isDigit {c : Char} {rest : List Char} {value : Nat}
    (h : Digits (c :: rest) value) : c.isDigit = true :=
  h.isDigit c (List.mem_cons_self ..)

theorem Digits.head_ne_dash {c : Char} {rest : List Char} {value : Nat}
    (h : Digits (c :: rest) value) : c ≠ '-' := by
  rintro rfl
  exact absurd h.head_isDigit (by decide)

theorem unsigned_plus (bound : Nat) {rest : List Char} (h : rest ≠ []) :
    unsigned bound ('+' :: rest) = digits bound .tooLarge 0 rest := by
  cases rest with
  | nil => exact absurd rfl h
  | cons d rest => rfl

theorem unsigned_cons (bound : Nat) {c : Char} (rest : List Char) (h : c ≠ '+') :
    unsigned bound (c :: rest) = digits bound .tooLarge 0 (c :: rest) := by
  unfold unsigned
  split
  · rename_i heq
    cases heq
  · rename_i heq
    exact absurd (List.cons.inj heq).1 h
  · rename_i heq
    exact absurd (List.cons.inj heq).1 h
  · rfl

/-- What the digits without a minus sign denote. -/
theorem unsigned_eq_ok_iff (bound : Nat) {cs : List Char} {value : Nat} :
    unsigned bound cs = .ok value ↔
      (Digits cs value ∨ ∃ rest, cs = '+' :: rest ∧ Digits rest value) ∧ value ≤ bound := by
  cases cs with
  | nil =>
    constructor
    · intro h
      cases h
    · rintro ⟨hdigits | ⟨rest, heq, -⟩, -⟩
      · exact absurd rfl hdigits.ne_nil
      · cases heq
  | cons c rest =>
    by_cases hplus : c = '+'
    · subst hplus
      have hnodigit : ¬ Digits ('+' :: rest) value :=
        fun hdigits => absurd hdigits.head_isDigit (by decide)
      simp only [hnodigit, false_or, List.cons.injEq, true_and, exists_eq_left']
      cases rest with
      | nil =>
        constructor
        · intro h
          cases h
        · rintro ⟨hdigits, -⟩
          exact absurd rfl hdigits.ne_nil
      | cons d more =>
        rw [unsigned_plus bound (List.cons_ne_nil d more)]
        exact digits_zero_eq_ok_iff bound .tooLarge (List.cons_ne_nil d more)
    · rw [unsigned_cons bound rest hplus,
        digits_zero_eq_ok_iff bound .tooLarge (List.cons_ne_nil c rest)]
      simp [hplus]

theorem signed_minus {rest : List Char} (h : rest ≠ []) :
    signed ('-' :: rest) =
      (digits Int64.minValue.toInt.natAbs .tooSmall 0 rest).map
        fun (value : Nat) => -(value : Int) := by
  cases rest with
  | nil => exact absurd rfl h
  | cons d rest => rfl

theorem signed_of_head_ne {cs : List Char} (h : cs.head? ≠ some '-') :
    signed cs =
      (unsigned Int64.maxValue.toInt.toNat cs).map fun (value : Nat) => (value : Int) := by
  unfold signed
  split
  · exact absurd rfl h
  · exact absurd rfl h
  · rfl

theorem writes_minus_iff {rest : List Char} {z : Int} :
    Writes ('-' :: rest) z ↔ ∃ value : Nat, Digits rest value ∧ -(value : Int) = z := by
  constructor
  · intro h
    cases h with
    | unsigned hdigits => exact absurd hdigits.head_isDigit (by decide)
    | minus hdigits => exact ⟨_, hdigits, rfl⟩
  · rintro ⟨value, hdigits, rfl⟩
    exact .minus hdigits

theorem writes_iff_of_head_ne {cs : List Char} {z : Int} (h : cs.head? ≠ some '-') :
    Writes cs z ↔
      ∃ value : Nat, (Digits cs value ∨ ∃ rest, cs = '+' :: rest ∧ Digits rest value) ∧
        (value : Int) = z := by
  constructor
  · intro hwrites
    cases hwrites with
    | unsigned hdigits => exact ⟨_, .inl hdigits, rfl⟩
    | plus hdigits => exact ⟨_, .inr ⟨_, rfl, hdigits⟩, rfl⟩
    | minus hdigits => exact absurd rfl h
  · rintro ⟨value, hdigits | ⟨rest, rfl, hdigits⟩, rfl⟩
    · exact .unsigned hdigits
    · exact .plus hdigits

/-- The bounds of the range, of which the lower one is further from 0. -/
theorem bounds :
    Int64.minValue.toInt = -9223372036854775808 ∧ Int64.maxValue.toInt = 9223372036854775807 := by
  decide

theorem signed_eq_ok_iff {cs : List Char} {z : Int} :
    signed cs = .ok z ↔
      Writes cs z ∧ Int64.minValue.toInt ≤ z ∧ z ≤ Int64.maxValue.toInt := by
  obtain ⟨hmin, hmax⟩ := bounds
  by_cases hhead : cs.head? = some '-'
  · obtain ⟨rest, rfl⟩ : ∃ rest, cs = '-' :: rest := by
      cases cs with
      | nil => cases hhead
      | cons c rest => exact ⟨rest, by rw [Option.some.inj hhead]⟩
    rw [writes_minus_iff]
    by_cases hrest : rest = []
    · subst hrest
      constructor
      · intro h
        cases h
      · rintro ⟨⟨value, hdigits, -⟩, -⟩
        exact absurd rfl hdigits.ne_nil
    · rw [signed_minus hrest, map_eq_ok_iff]
      simp only [digits_zero_eq_ok_iff _ _ hrest]
      constructor
      · rintro ⟨value, ⟨hdigits, hle⟩, rfl⟩
        exact ⟨⟨value, hdigits, rfl⟩, by omega, by omega⟩
      · rintro ⟨⟨value, hdigits, rfl⟩, hge, -⟩
        exact ⟨value, ⟨hdigits, by omega⟩, rfl⟩
  · rw [signed_of_head_ne hhead, map_eq_ok_iff, writes_iff_of_head_ne hhead]
    simp only [unsigned_eq_ok_iff]
    constructor
    · rintro ⟨value, ⟨hdigits, hle⟩, rfl⟩
      exact ⟨⟨value, hdigits, rfl⟩, by omega, by omega⟩
    · rintro ⟨⟨value, hdigits, rfl⟩, -, hle⟩
      exact ⟨value, ⟨hdigits, by omega⟩, rfl⟩

/-- Reading accepts exactly the numerals of 64-bit numbers. -/
theorem read_eq_ok_iff {text : String} {n : Int64} : read text = .ok n ↔ Denotes text n := by
  rw [read, map_eq_ok_iff, Denotes]
  constructor
  · rintro ⟨z, hsigned, rfl⟩
    obtain ⟨hwrites, hge, hle⟩ := signed_eq_ok_iff.mp hsigned
    obtain ⟨-, hmax⟩ := bounds
    rwa [Int64.toInt_ofInt_of_le hge (by omega)]
  · intro hwrites
    refine ⟨n.toInt, signed_eq_ok_iff.mpr ⟨hwrites, ?_, ?_⟩, Int64.ofInt_toInt n⟩
    · exact n.minValue_le_toInt
    · exact n.toInt_le

/-! ## Canonical numerals -/

theorem digits_toDigits (n : Nat) : Digits (Nat.toDigits 10 n) n where
  ne_nil := Nat.toDigits_ne_nil
  isDigit _ hc := Nat.isDigit_of_mem_toDigits (by decide) (by decide) hc
  value_eq := Nat.ofDigitChars_ten_toDigits

theorem toList_repr_ofNat (n : Nat) : (Int.ofNat n).repr.toList = Nat.toDigits 10 n :=
  Nat.toList_repr

theorem toList_repr_negSucc (n : Nat) :
    (Int.negSucc n).repr.toList = '-' :: Nat.toDigits 10 (n + 1) := by
  rw [← Nat.toList_repr]
  exact String.toList_append ..

end FactorialCheck.Numeral
