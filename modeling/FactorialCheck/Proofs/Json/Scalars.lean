import FactorialCheck.Json.Reader
import FactorialCheck.Json.Writer
import FactorialCheck.Proofs.Numerals

/-!
# Numbers and strings in JSON texts

An integer is read off its digits as long as what follows cannot be part of it,
and a string off its escapes up to the closing quote.
-/

namespace FactorialCheck.Json

open Numeral (digits_toDigits toList_repr_ofNat toList_repr_negSucc)

/-! ## Integers -/

/-- What a number cannot go on with. -/
def Ends (rest : List Char) : Prop :=
  ∀ c ∈ rest.head?, c.isDigit = false ∧ c ≠ '.' ∧ c ≠ 'e' ∧ c ≠ 'E'

theorem ends_nil : Ends [] :=
  fun _ hc => nomatch hc

theorem digits?_append {run rest : List Char} (hne : run ≠ [])
    (hrun : ∀ c ∈ run, c.isDigit = true) (hrest : Ends rest) :
    digits? (run ++ rest) = some (run, rest) := by
  have hstop : rest.takeWhile Char.isDigit = [] ∧ rest.dropWhile Char.isDigit = rest := by
    cases rest with
    | nil => exact ⟨rfl, rfl⟩
    | cons c more =>
      have hc : ¬ c.isDigit = true := by
        rw [(hrest c rfl).1]
        exact Bool.false_ne_true
      exact ⟨List.takeWhile_cons_of_neg hc, List.dropWhile_cons_of_neg hc⟩
  rw [digits?, List.takeWhile_append_of_pos hrun, List.dropWhile_append_of_pos hrun, hstop.1,
    hstop.2, List.append_nil]
  exact if_neg (by simpa using hne)

/-- A canonical numeral begins with a zero only if it is that of zero. -/
theorem eq_nil_of_toDigits_eq_zero_cons {n : Nat} {more : List Char}
    (h : Nat.toDigits 10 n = '0' :: more) : more = [] := by
  induction n using Nat.strongRecOn generalizing more with
  | ind n ih =>
    by_cases hsmall : n < 10
    · rw [Nat.toDigits_of_lt_base hsmall] at h
      exact (List.cons.inj h).2.symm
    · rw [Nat.toDigits_of_base_le (by decide) (Nat.le_of_not_lt hsmall)] at h
      cases hfirst : Nat.toDigits 10 (n / 10) with
      | nil => exact absurd hfirst Nat.toDigits_ne_nil
      | cons c digits =>
        rw [hfirst, List.cons_append] at h
        obtain ⟨rfl, -⟩ := List.cons.inj h
        -- The digits before the last one would be those of zero.
        have hdigits : digits = [] := ih (n / 10) (by omega) hfirst
        have hzero : Nat.ofDigitChars 10 (Nat.toDigits 10 (n / 10)) 0 = 0 := by
          rw [hfirst, hdigits]
          rfl
        rw [Nat.ofDigitChars_ten_toDigits] at hzero
        omega

theorem whole?_toDigits (n : Nat) {rest : List Char} (hrest : Ends rest) :
    whole? (Nat.toDigits 10 n ++ rest) = some (Nat.toDigits 10 n, rest) := by
  have hn := digits_toDigits n
  rw [whole?, digits?_append hn.ne_nil hn.isDigit hrest]
  split
  · rename_i heq
    have hdigits := congrArg Prod.fst (Option.some.inj heq)
    exact absurd (eq_nil_of_toDigits_eq_zero_cons hdigits) (List.cons_ne_nil _ _)
  · rfl

theorem magnitude?_toDigits (negative : Bool) (n : Nat) {rest : List Char} (hrest : Ends rest)
    (hn : negative = true → n ≠ 0) :
    magnitude? negative (Nat.toDigits 10 n ++ rest) =
      some (.integer (if negative then -(n : Int) else n), rest) := by
  rw [magnitude?, whole?_toDigits n hrest]
  simp only [decimal, Nat.ofDigitChars_ten_toDigits]
  split
  · exact absurd rfl (hrest _ rfl).2.1
  · exact absurd rfl (hrest _ rfl).2.2.1
  · exact absurd rfl (hrest _ rfl).2.2.2
  · cases negative with
    | false => rfl
    | true =>
      rw [if_pos rfl, if_neg (hn rfl)]
      rfl

theorem number?_cons_of_ne {c : Char} (more : List Char) (h : c ≠ '-') :
    number? (c :: more) = magnitude? false (c :: more) := by
  unfold number?
  split
  · rename_i heq
    exact absurd (List.cons.inj heq).1 h
  · rfl

/-- An integer of any size is read exactly. -/
theorem number?_repr (n : Int) {rest : List Char} (hrest : Ends rest) :
    number? (n.repr.toList ++ rest) = some (.integer n, rest) := by
  cases n with
  | ofNat m =>
    have hread := magnitude?_toDigits false m hrest nofun
    have hm := digits_toDigits m
    rw [toList_repr_ofNat]
    cases hchars : Nat.toDigits 10 m with
    | nil => exact absurd hchars hm.ne_nil
    | cons c more =>
      rw [hchars] at hread hm
      exact (number?_cons_of_ne _ hm.head_ne_dash).trans hread
  | negSucc m =>
    rw [toList_repr_negSucc, List.cons_append]
    exact magnitude?_toDigits true (m + 1) hrest fun _ => m.succ_ne_zero

/-! ## Strings -/

/-- Four hexadecimal digits write any 16-bit unit. -/
theorem unitDigits_eq (unit : Nat) (h : unit < 65536) :
    ∃ a b c d, unitDigits unit = [a, b, c, d] ∧ unit? a b c d = some unit := by
  refine ⟨_, _, _, _, rfl, ?_⟩
  have hdigit (n : Nat) : hexDigit? (Nat.digitChar (n % 16)) = some (n % 16) :=
    hexDigit?_digitChar _ (Nat.mod_lt n (by decide))
  simp only [unit?, hdigit, Option.bind_eq_bind, Option.bind_some, Option.pure_def,
    Option.some.injEq]
  omega

/-- An escape other than that of a unit. -/
theorem stringBody?_named {c d : Char} (rest : List Char) (hc : c ≠ 'u')
    (hd : namedEscape? c = some d) :
    stringBody? ('\\' :: c :: rest) = consText d (stringBody? rest) := by
  rw [stringBody?, hd]
  · intro _ _ _ _ _ _ _ _ _ hu _
    exact hc hu
  · intro _ _ _ _ _ hu _
    exact hc hu

theorem stringBody?_plain {c : Char} (rest : List Char) (hquote : c ≠ '"') (hslash : c ≠ '\\')
    (hvisible : ¬ c.toNat < 32) :
    stringBody? (c :: rest) = consText c (stringBody? rest) := by
  rw [stringBody?, if_neg (not_or.mpr ⟨hvisible, hslash⟩)]
  · exact hquote
  · intro _ _ _ _ _ _ _ _ _ hc _
    exact hslash hc
  · intro _ _ _ _ _ hc _
    exact hslash hc
  · intro _ _ hc _
    exact hslash hc

/-- A text that does not go on with the escape of a unit, or does so properly. -/
inductive Escaped : List Char → Prop where
  | plain {cs : List Char} : (∀ more, cs ≠ '\\' :: 'u' :: more) → Escaped cs
  | unit {n : Nat} (more : List Char) : n < 65536 →
      Escaped ('\\' :: 'u' :: (unitDigits n ++ more))

/-- The escape of a control character is no half of a pair, whatever comes next. -/
theorem stringBody?_unit {n : Nat} {rest : List Char} (hn : n < 32) (hrest : Escaped rest) :
    stringBody? ('\\' :: 'u' :: (unitDigits n ++ rest)) =
      consText (Char.ofNat n) (stringBody? rest) := by
  obtain ⟨a, b, c, d, hdigits, hunit⟩ := unitDigits_eq n (by omega)
  have hsingle : single? n = some (Char.ofNat n) := if_neg (by omega)
  rw [hdigits]
  cases hrest with
  | plain hplain =>
    refine (stringBody?.eq_4 a b c d rest ?_).trans ?_
    · intro e f g h more heq
      exact hplain _ heq
    · rw [hunit, Option.bind_some, hsingle]
  | @unit low more hlow =>
    obtain ⟨e, f, g, h, hdigits', hunit'⟩ := unitDigits_eq low hlow
    have hpair : pair? n low = none := if_neg (by omega)
    rw [hdigits']
    refine (stringBody?.eq_3 a b c d e f g h more).trans ?_
    simp only [hunit, hunit', hpair, hsingle]
    rfl

/-- The ways in which a character is written in a string. -/
inductive Escapes : Char → List Char → Prop where
  | named {c d : Char} : c ≠ 'u' → namedEscape? c = some d → Escapes d ['\\', c]
  | unit {c : Char} : c.toNat < 32 → Escapes c ('\\' :: 'u' :: unitDigits c.toNat)
  | plain {c : Char} : c ≠ '"' → c ≠ '\\' → ¬ c.toNat < 32 → Escapes c [c]

theorem escapes_escape (c : Char) : Escapes c (escape c) := by
  rw [escape]
  split
  · subst c
    exact .named (by decide) rfl
  split
  · subst c
    exact .named (by decide) rfl
  split
  · subst c
    exact .named (by decide) rfl
  split
  · subst c
    exact .named (by decide) rfl
  split
  · subst c
    exact .named (by decide) rfl
  rename_i hquote hslash _ _ _
  split
  · rename_i hcontrol
    exact .unit hcontrol
  · rename_i hvisible
    exact .plain hquote hslash hvisible

theorem escaped_flatMap (text rest : List Char) :
    Escaped (text.flatMap escape ++ '"' :: rest) := by
  cases text with
  | nil => exact .plain nofun
  | cons c text =>
    rw [List.flatMap_cons, List.append_assoc]
    have hescapes := escapes_escape c
    generalize escape c = escaped at hescapes ⊢
    cases hescapes with
    | named hc hd =>
      refine .plain fun more heq => ?_
      exact hc (List.cons.inj (List.cons.inj heq).2).1
    | unit hcontrol => exact .unit _ (by omega)
    | plain hquote hslash hvisible =>
      refine .plain fun more heq => ?_
      exact hslash (List.cons.inj heq).1

/-- A string is read off its escapes as it was, whatever stands behind the quote. -/
theorem stringBody?_flatMap_escape (text rest : List Char) :
    stringBody? (text.flatMap escape ++ '"' :: rest) = some (text, rest) := by
  induction text with
  | nil => exact stringBody?.eq_2 rest
  | cons c text ih =>
    have hescapes := escapes_escape c
    rw [List.flatMap_cons, List.append_assoc]
    generalize escape c = escaped at hescapes ⊢
    cases hescapes with
    | named hc hd => exact (stringBody?_named _ hc hd).trans (congrArg (consText c) ih)
    | unit hcontrol =>
      have hunit := stringBody?_unit hcontrol (escaped_flatMap text rest)
      rw [Char.ofNat_toNat] at hunit
      exact hunit.trans (congrArg (consText c) ih)
    | plain hquote hslash hvisible =>
      exact (stringBody?_plain _ hquote hslash hvisible).trans (congrArg (consText c) ih)

end FactorialCheck.Json
