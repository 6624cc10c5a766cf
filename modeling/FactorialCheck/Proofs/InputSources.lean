import FactorialCheck.Proofs.CommandLine.Understanding
import FactorialCheck.Proofs.Outcomes

/-!
# The two sources of an input

The input of a check stands behind `--input=` or in the environment. Both read
the same numerals as the same numbers, and after that no difference is made
between them. Besides, the environment has words for 1 and 0.
-/

namespace FactorialCheck

open Numeral (Denotes)

/-! ## Numerals and words for truth values -/

theorem toLower_of_isDigit {c : Char} (h : c.isDigit = true) : c.toLower = c := by
  have hbounds : 48 ≤ c.val ∧ c.val ≤ 57 := by
    simpa [Char.isDigit] using h
  have hupper : ¬ (c.val ≥ 65 ∧ c.val ≤ 90) := by
    grind
  exact dif_neg hupper

theorem Numeral.Denotes.exists_digit {text : String} {n : Int64} (h : Denotes text n) :
    ∃ c ∈ text.toList, c.isDigit = true := by
  have hsome {cs : List Char} {value : Nat} (hdigits : Numeral.Digits cs value) :
      ∃ c ∈ cs, c.isDigit = true := by
    obtain ⟨c, hc⟩ := List.exists_mem_of_ne_nil cs hdigits.ne_nil
    exact ⟨c, hc, hdigits.isDigit c hc⟩
  rw [Denotes] at h
  generalize n.toInt = z at h
  generalize text.toList = cs at h
  cases h with
  | unsigned hdigits => exact hsome hdigits
  | plus hdigits =>
    obtain ⟨c, hc, hdigit⟩ := hsome hdigits
    exact ⟨c, List.mem_cons_of_mem _ hc, hdigit⟩
  | minus hdigits =>
    obtain ⟨c, hc, hdigit⟩ := hsome hdigits
    exact ⟨c, List.mem_cons_of_mem _ hc, hdigit⟩

namespace Configuration

variable {text : String}

theorem truthWord?_of_true (h : Ascii.lower text ∈ ["true", "on", "yes"]) :
    truthWord? text = some 1 :=
  if_pos h

theorem truthWord?_of_false (h : Ascii.lower text ∈ ["false", "off", "no"]) :
    truthWord? text = some 0 := by
  have hdisjoint : ∀ word ∈ ["false", "off", "no"], word ∉ ["true", "on", "yes"] := by
    decide
  exact (if_neg (hdisjoint _ h)).trans (if_pos h)

theorem truthWord?_of_not_mem
    (h : Ascii.lower text ∉ ["true", "on", "yes"] ++ ["false", "off", "no"]) :
    truthWord? text = none := by
  rw [List.mem_append, not_or] at h
  exact (if_neg h.1).trans (if_neg h.2)

/-- No word for a truth value has a digit, which has no other case. -/
theorem not_mem_truthWords_of_digit {c : Char} (hc : c ∈ text.toList) (hdigit : c.isDigit = true) :
    Ascii.lower text ∉ ["true", "on", "yes"] ++ ["false", "off", "no"] := by
  intro hmem
  have hlower : c ∈ (Ascii.lower text).toList := by
    rw [Ascii.toList_lower]
    exact List.mem_map.mpr ⟨c, hc, toLower_of_isDigit hdigit⟩
  have hwords : ∀ word ∈ ["true", "on", "yes"] ++ ["false", "off", "no"],
      word.toList.any Char.isDigit = false := by
    decide
  exact List.any_eq_false.mp (hwords _ hmem) c hlower hdigit

/-- No numeral is a word for a truth value. -/
theorem not_mem_truthWords {n : Int64} (h : Denotes text n) :
    Ascii.lower text ∉ ["true", "on", "yes"] ++ ["false", "off", "no"] := by
  obtain ⟨c, hc, hdigit⟩ := h.exists_digit
  exact not_mem_truthWords_of_digit hc hdigit

theorem readInput_of_denotes {n : Int64} (h : Denotes text n) : readInput text = .ok n := by
  rw [readInput, truthWord?_of_not_mem (not_mem_truthWords h)]
  simp only [Numeral.read_eq_ok_iff.mpr h]

theorem readInput_of_truthWord {n : Int64} (h : truthWord? text = some n) :
    readInput text = .ok n := by
  rw [readInput, h]

theorem readInput_of_fault {fault : NumeralFault}
    (hword : Ascii.lower text ∉ ["true", "on", "yes"] ++ ["false", "off", "no"])
    (hfault : Numeral.read text = .error fault) : readInput text = .error ⟨text⟩ := by
  rw [readInput, truthWord?_of_not_mem hword]
  simp only [hfault]

end Configuration

/-! ## The words of the check -/

namespace CommandLine

/-- Arguments without an input can be parted anywhere. -/
theorem CheckArguments.split {first second : List String} {total : Nat} {json : Bool}
    (h : CheckArguments (first ++ second) total json none) :
    ∃ before after jsonBefore jsonAfter, CheckArguments first before jsonBefore none ∧
      CheckArguments second after jsonAfter none ∧ before + after = total ∧
      (jsonBefore || jsonAfter) = json ∧ (jsonBefore = true → jsonAfter = false) := by
  induction first generalizing total json with
  | nil => exact ⟨0, total, false, json, .nil, h, Nat.zero_add total, rfl, nofun⟩
  | cons word first ih =>
    rw [List.cons_append] at h
    generalize hrest : first ++ second = rest at h
    cases h with
    | verbose hword h =>
      rw [← hrest] at h
      obtain ⟨before, after, jsonBefore, jsonAfter, hfirst, hsecond, rfl, hjson, honce⟩ := ih h
      exact ⟨_, after, jsonBefore, jsonAfter, .verbose hword hfirst, hsecond,
        Nat.add_assoc .., hjson, honce⟩
    | json h =>
      rw [← hrest] at h
      obtain ⟨before, after, jsonBefore, jsonAfter, hfirst, hsecond, htotal, hjson, -⟩ := ih h
      obtain ⟨rfl, rfl⟩ := Bool.or_eq_false_iff.mp hjson
      exact ⟨before, after, true, false, .json hfirst, hsecond, htotal, rfl, fun _ => rfl⟩

section Check

variable {requests : List String} {outer : Nat} (hrequests : VerboseWords requests outer)
include hrequests

variable {first second : List String} {inner : Nat} {json : Bool}
  (harguments : CheckArguments (first ++ second) inner json none)
include harguments

end Check

end CommandLine

/-! ## The runs -/

namespace Program

open CommandLine

section Run

variable {stamp : String} {words : List String} {env : Environment} {read : Log.Reader}
  {verbose : Nat} {json : Bool}

end Run

section Sources

variable (read : Log.Reader) (stamp : String) {text : String}
  {requests first second : List String} {outer inner : Nat} {json : Bool} {env : Environment}
  (hrequests : VerboseWords requests outer)
  (harguments : CheckArguments (first ++ second) inner json none)
  (henv : Configuration.spellings env = [])
include hrequests harguments henv

end Sources

end Program

end FactorialCheck
