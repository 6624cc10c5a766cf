import FactorialCheck.Proofs.InputSources

/-!
# The language of the input

The texts that are read as an input are the numerals of 64-bit numbers and six
words. A number has many numerals, all of which are read as this number.
-/

namespace FactorialCheck

namespace Numeral

/-! ## Numerals of one number -/

section Digits

variable {digits : List Char} (hne : digits ≠ []) (hdigit : ∀ c ∈ digits, c.isDigit = true)
include hne hdigit

theorem digits_iff {value : Nat} : Digits digits value ↔ Nat.ofDigitChars 10 digits 0 = value :=
  ⟨Digits.value_eq, fun h => ⟨hne, hdigit, h⟩⟩

theorem writes_minus_digits_iff {z : Int} :
    Writes ('-' :: digits) z ↔ -(Nat.ofDigitChars 10 digits 0 : Int) = z := by
  rw [writes_minus_iff]
  simp only [digits_iff hne hdigit, exists_eq_left']

theorem writes_plus_digits_iff {z : Int} :
    Writes ('+' :: digits) z ↔ (Nat.ofDigitChars 10 digits 0 : Int) = z := by
  have hplus : ¬ ∃ value, Digits ('+' :: digits) value := by
    rintro ⟨value, hdigits⟩
    exact absurd hdigits.head_isDigit (by decide)
  rw [not_exists] at hplus
  rw [writes_iff_of_head_ne (by simp)]
  simp only [hplus, false_or, List.cons.injEq, true_and, exists_eq_left', digits_iff hne hdigit]

theorem writes_digits_iff {z : Int} :
    Writes digits z ↔ (Nat.ofDigitChars 10 digits 0 : Int) = z := by
  cases digits with
  | nil => exact absurd rfl hne
  | cons c rest =>
    have hc : c.isDigit = true := hdigit c (List.mem_cons_self ..)
    have hminus : c ≠ '-' := by
      rintro rfl
      exact absurd hc (by decide)
    have hplus : c ≠ '+' := by
      rintro rfl
      exact absurd hc (by decide)
    rw [writes_iff_of_head_ne (by simpa using hminus)]
    simp only [digits_iff hne hdigit, List.cons.injEq, hplus, false_and, exists_false, or_false,
      exists_eq_left']

end Digits

theorem ofDigitChars_zeros (zeros : Nat) (digits : List Char) :
    Nat.ofDigitChars 10 (List.replicate zeros '0' ++ digits) 0 = Nat.ofDigitChars 10 digits 0 := by
  rw [Nat.ofDigitChars_append, Nat.ofDigitChars_replicate_zero, Nat.mul_zero]

/-- The ways to write a sign, and how it is written in canonical numerals. -/
def signs : List (String × String) :=
  [("", ""), ("+", ""), ("-", "-")]

/-- Neither a plus sign nor leading zeros change what a numeral denotes. -/
theorem denotes_padded_iff {sign plain digits : String} (hsign : (sign, plain) ∈ signs)
    (zeros : Nat) (hne : digits ≠ "") (hdigit : ∀ c ∈ digits.toList, c.isDigit = true)
    {n : Int64} :
    Denotes (sign ++ String.ofList (List.replicate zeros '0') ++ digits) n ↔
      Denotes (plain ++ digits) n := by
  have hne : digits.toList ≠ [] := fun h => hne (String.toList_inj.mp h)
  have hpaddedNe : List.replicate zeros '0' ++ digits.toList ≠ [] := by simp [hne]
  have hpaddedDigit : ∀ c ∈ List.replicate zeros '0' ++ digits.toList, c.isDigit = true := by
    intro c hc
    rcases List.mem_append.mp hc with hzero | hc
    · rw [List.eq_of_mem_replicate hzero]
      rfl
    · exact hdigit c hc
  have hvalue := ofDigitChars_zeros zeros digits.toList
  rw [Denotes, Denotes, String.toList_append, String.toList_append, String.toList_append,
    String.toList_ofList, List.append_assoc]
  simp only [signs, List.mem_cons, Prod.mk.injEq, List.not_mem_nil, or_false] at hsign
  rcases hsign with ⟨rfl, rfl⟩ | ⟨rfl, rfl⟩ | ⟨rfl, rfl⟩
  · refine (writes_digits_iff hpaddedNe hpaddedDigit).trans ?_
    rw [hvalue]
    exact (writes_digits_iff hne hdigit).symm
  · refine (writes_plus_digits_iff hpaddedNe hpaddedDigit).trans ?_
    rw [hvalue]
    exact (writes_digits_iff hne hdigit).symm
  · refine (writes_minus_digits_iff hpaddedNe hpaddedDigit).trans ?_
    rw [hvalue]
    exact (writes_minus_digits_iff hne hdigit).symm

/-- The canonical numeral of a number denotes it. -/
theorem denotes_ofInput (n : Int64) : Denotes (ofInput n) n := by
  rw [Denotes, ofInput]
  generalize n.toInt = z
  cases z with
  | ofNat m =>
    rw [toList_repr_ofNat]
    exact .unsigned (digits_toDigits m)
  | negSucc m =>
    rw [toList_repr_negSucc]
    exact .minus (digits_toDigits (m + 1))

end Numeral

namespace Configuration

open Numeral (Denotes)

/-! ## Texts of an input -/

/-- What a text says as an input: a word for a truth value, or a numeral. -/
inductive Says : String → Int64 → Prop where
  | yes {text : String} : Ascii.lower text ∈ ["true", "on", "yes"] → Says text 1
  | no {text : String} : Ascii.lower text ∈ ["false", "off", "no"] → Says text 0
  | numeral {text : String} {n : Int64} : Denotes text n → Says text n

section Text

variable {text : String} {n : Int64}

theorem says_iff :
    Says text n ↔ Ascii.lower text ∈ ["true", "on", "yes"] ∧ n = 1 ∨
      Ascii.lower text ∈ ["false", "off", "no"] ∧ n = 0 ∨ Denotes text n := by
  constructor
  · intro h
    cases h with
    | yes hword => exact .inl ⟨hword, rfl⟩
    | no hword => exact .inr (.inl ⟨hword, rfl⟩)
    | numeral hdenotes => exact .inr (.inr hdenotes)
  · rintro (⟨hword, rfl⟩ | ⟨hword, rfl⟩ | hdenotes)
    · exact .yes hword
    · exact .no hword
    · exact .numeral hdenotes

theorem Says.readInput_eq (h : Says text n) : readInput text = .ok n := by
  cases h with
  | yes hword => exact readInput_of_truthWord (truthWord?_of_true hword)
  | no hword => exact readInput_of_truthWord (truthWord?_of_false hword)
  | numeral hdenotes => exact readInput_of_denotes hdenotes

theorem readInput_cases (text : String) :
    (∃ n, Says text n) ∨ (∀ n, ¬ Says text n) ∧ readInput text = .error ⟨text⟩ := by
  by_cases htrue : Ascii.lower text ∈ ["true", "on", "yes"]
  · exact .inl ⟨1, .yes htrue⟩
  by_cases hfalse : Ascii.lower text ∈ ["false", "off", "no"]
  · exact .inl ⟨0, .no hfalse⟩
  have hword : Ascii.lower text ∉ ["true", "on", "yes"] ++ ["false", "off", "no"] := by
    rw [List.mem_append, not_or]
    exact ⟨htrue, hfalse⟩
  cases hread : Numeral.read text with
  | ok n => exact .inl ⟨n, .numeral (Numeral.read_eq_ok_iff.mp hread)⟩
  | error fault =>
    have herror := readInput_of_fault hword hread
    refine .inr ⟨fun n hsaid => ?_, herror⟩
    rw [hsaid.readInput_eq] at herror
    cases herror

/-- The input is read from exactly the texts that say it. -/
theorem readInput_eq_ok_iff : readInput text = .ok n ↔ Says text n := by
  constructor
  · intro h
    rcases readInput_cases text with ⟨m, hsaid⟩ | ⟨-, herror⟩
    · rw [hsaid.readInput_eq] at h
      cases h
      exact hsaid
    · rw [herror] at h
      cases h
  · exact Says.readInput_eq

/-- A text with a digit in it can only be a numeral. -/
theorem says_iff_denotes {c : Char} (hc : c ∈ text.toList) (hdigit : c.isDigit = true) :
    Says text n ↔ Denotes text n := by
  have hword := not_mem_truthWords_of_digit hc hdigit
  rw [List.mem_append, not_or] at hword
  constructor
  · intro h
    cases h with
    | yes htrue => exact absurd htrue hword.1
    | no hfalse => exact absurd hfalse hword.2
    | numeral hdenotes => exact hdenotes
  · exact .numeral

theorem says_padded_iff {sign plain digits : String} (hsign : (sign, plain) ∈ Numeral.signs)
    (zeros : Nat) (hne : digits ≠ "") (hdigit : ∀ c ∈ digits.toList, c.isDigit = true) :
    Says (sign ++ String.ofList (List.replicate zeros '0') ++ digits) n ↔
      Says (plain ++ digits) n := by
  obtain ⟨c, hc⟩ : ∃ c, c ∈ digits.toList :=
    List.exists_mem_of_ne_nil _ fun h => hne (String.toList_inj.mp h)
  have hpadded : c ∈ (sign ++ String.ofList (List.replicate zeros '0') ++ digits).toList := by
    rw [String.toList_append]
    exact List.mem_append_right _ hc
  have hplain : c ∈ (plain ++ digits).toList := by
    rw [String.toList_append]
    exact List.mem_append_right _ hc
  rw [says_iff_denotes hpadded (hdigit c hc), says_iff_denotes hplain (hdigit c hc)]
  exact Numeral.denotes_padded_iff hsign zeros hne hdigit

end Text

/-! ## The variable with the text -/

/-- The variable of exactly this name has the text, and no other one supplies the input. -/
structure SoleSource (env : Environment) (text : String) : Prop where
  mem : ⟨"FACT_DRIVER_INPUT", text⟩ ∈ env.toList
  name_eq : ∀ v ∈ env.toList, suppliesInput v = true → v.name = "FACT_DRIVER_INPUT"

section SoleSource

variable {env : Environment} {text : String} (h : SoleSource env text)
include h

theorem SoleSource.spellings_eq : spellings env = [⟨"FACT_DRIVER_INPUT", text⟩] := by
  have hexact : spellsInput "FACT_DRIVER_INPUT" = true := rfl
  have hmem : ⟨"FACT_DRIVER_INPUT", text⟩ ∈ spellings env :=
    List.mem_filter.mpr ⟨h.mem, hexact⟩
  have hname : ∀ v ∈ spellings env, v.name = "FACT_DRIVER_INPUT" := by
    intro v hv
    obtain ⟨hv, hspells⟩ := List.mem_filter.mp hv
    refine h.name_eq v hv ?_
    rwa [suppliesInput_eq]
  have hnodup : ((spellings env).map Variable.name).Nodup :=
    env.distinct.sublist (List.filter_sublist.map _)
  generalize spellings env = vs at hmem hname hnodup
  -- The names are distinct and all the same, so that there is one variable.
  cases vs with
  | nil => cases hmem
  | cons v rest =>
    cases rest with
    | nil => rw [List.mem_singleton.mp hmem]
    | cons w rest =>
      rw [List.map_cons, List.map_cons, hname v (.head _), hname w (.tail _ (.head _))] at hnodup
      exact absurd (List.mem_cons_self ..) (List.nodup_cons.mp hnodup).1

theorem SoleSource.load_eq : (load env).1 = (readInput text).map Configuration.mk :=
  have hstands : Stands (some text) env := .inl h.spellings_eq
  hstands.load

theorem SoleSource.load_eq_ok_iff {n : Int64} : (load env).1 = .ok ⟨n⟩ ↔ Says text n := by
  rw [h.load_eq, map_eq_ok_iff]
  simp only [readInput_eq_ok_iff, Configuration.mk.injEq, exists_eq_right]

theorem SoleSource.load_eq_error (hnone : ∀ n, ¬ Says text n) :
    (load env).1 = .error ⟨text⟩ := by
  rw [h.load_eq]
  rcases readInput_cases text with ⟨n, hsaid⟩ | ⟨-, herror⟩
  · exact absurd hsaid (hnone n)
  · rw [herror]
    rfl

end SoleSource

/--
Let the exact variable be the only one that supplies the input. What is loaded is the
number that its text says: 1 or 0 for a word for a truth value in any case, and the
number that is denoted for a sign, which can be missing, and one or more digits, if it
fits in 64 bits; every other text is refused, and the error names it. So the canonical
numeral of any number is read as that number, and a plus sign or leading zeros change
nothing.
-/
theorem load_reads_language {env : Environment} {text : String} (h : SoleSource env text) :
    (∀ n, (load env).1 = .ok ⟨n⟩ ↔
      Ascii.lower text ∈ ["true", "on", "yes"] ∧ n = 1 ∨
      Ascii.lower text ∈ ["false", "off", "no"] ∧ n = 0 ∨ Denotes text n) ∧
    ((∀ n, (load env).1 ≠ .ok ⟨n⟩) → (load env).1 = .error ⟨text⟩) ∧
    (∀ n, text = Numeral.ofInput n → (load env).1 = .ok ⟨n⟩) ∧
    (∀ (sign plain digits : String) (zeros : Nat) (other : Environment),
      (sign, plain) ∈ [("", ""), ("+", ""), ("-", "-")] → digits ≠ "" →
      (∀ c ∈ digits.toList, c.isDigit = true) →
      text = sign ++ String.ofList (List.replicate zeros '0') ++ digits →
      SoleSource other (plain ++ digits) →
      ∀ n, (load env).1 = .ok ⟨n⟩ ↔ (load other).1 = .ok ⟨n⟩) := by
  refine ⟨fun n => ?_, fun hnone => ?_, ?_, ?_⟩
  · rw [h.load_eq_ok_iff]
    exact says_iff
  · refine h.load_eq_error fun n hsaid => hnone n ?_
    exact h.load_eq_ok_iff.mpr hsaid
  · rintro n rfl
    exact h.load_eq_ok_iff.mpr (.numeral (Numeral.denotes_ofInput n))
  · rintro sign plain digits zeros other hsign hne hdigit rfl hother n
    rw [h.load_eq_ok_iff, hother.load_eq_ok_iff]
    exact says_padded_iff hsign zeros hne hdigit

/-- The least input with leading zeros beside its canonical numeral, and a text that is none. -/
theorem load_reads_padded_minimum :
    let padded := Environment.ofList
      [⟨"LANG", "C"⟩, ⟨"FACT_DRIVER_INPUT", "-009223372036854775808"⟩, ⟨"fact_driver_output", "1"⟩]
    let canonical := Environment.ofList [⟨"FACT_DRIVER_INPUT", "-9223372036854775808"⟩]
    let other := Environment.ofList [⟨"FACT_DRIVER_INPUT", "five"⟩]
    SoleSource padded "-009223372036854775808" ∧ SoleSource canonical "-9223372036854775808" ∧
    SoleSource other "five" ∧ (load canonical).1 = .ok ⟨Int64.minValue⟩ ∧
    (load padded).1 = .ok ⟨Int64.minValue⟩ ∧ (load other).1 = .error ⟨"five"⟩ := by
  intro padded canonical other
  have hpadded : SoleSource padded "-009223372036854775808" := ⟨by decide, by decide⟩
  have hcanonical : SoleSource canonical "-9223372036854775808" := ⟨by decide, by decide⟩
  have hother : SoleSource other "five" := ⟨by decide, by decide⟩
  have hload := (load_reads_language hcanonical).2.2.1 Int64.minValue (by decide)
  have hzeros := (load_reads_language hpadded).2.2.2 "-" "-" "9223372036854775808" 2 canonical
    (by decide) (by decide) (List.all_eq_true.mp (by decide)) (by decide) hcanonical
  obtain ⟨hlanguage, hrefused, -⟩ := load_reads_language hother
  refine ⟨hpadded, hcanonical, hother, hload, (hzeros _).mpr hload, hrefused fun n hn => ?_⟩
  rcases (hlanguage n).mp hn with ⟨hword, -⟩ | ⟨hword, -⟩ | hdenotes
  · exact absurd hword (by decide)
  · exact absurd hword (by decide)
  · obtain ⟨c, hc, hdigit⟩ := hdenotes.exists_digit
    have hany : "five".toList.any Char.isDigit = true := List.any_eq_true.mpr ⟨c, hc, hdigit⟩
    exact absurd hany (by decide)

end Configuration

end FactorialCheck
