import FactorialCheck.Configuration.Json
import FactorialCheck.Proofs.Results
import Mathlib.Data.List.Nodup

/-!
# Configurations as JSON values

A configuration is read from the integer under the key `input`, or from the only item of
an array, and never from a number beyond 64 bits. What else an object has does not
matter; a second item of an array does.
-/

namespace FactorialCheck

/-! ## Entries -/

namespace Json

/-- The entries of an object have keys of their own. Other values have no keys. -/
def KeysDistinct : Json → Prop
  | .object entries => (entries.map Prod.fst).Nodup
  | _ => True

section Entries

variable {entries : List (String × Json)} {key : String} {value : Json}

theorem mem_of_entry_eq_some (h : entry? entries key = some value) : (key, value) ∈ entries := by
  obtain ⟨⟨found, value⟩, hfind, rfl⟩ := Option.map_eq_some_iff.mp h
  have hkey := List.find?_some hfind
  simp only [beq_iff_eq] at hkey
  subst hkey
  exact List.mem_of_find?_eq_some hfind

theorem entry_eq_some_of_mem (hdistinct : (entries.map Prod.fst).Nodup) (h : (key, value) ∈ entries) :
    entry? entries key = some value := by
  cases hentry : entry? entries key with
  | none =>
    rw [ entry?, Option.map_eq_none_iff, List.find?_eq_none] at hentry
    exact absurd (beq_self_eq_true key) (hentry _ h)
  | some other =>
    have hsame := List.inj_on_of_nodup_map hdistinct (mem_of_entry_eq_some hentry) h rfl
    rw [(Prod.mk.inj hsame).2]

theorem entry_eq_some_iff (hdistinct : (entries.map Prod.fst).Nodup) :
    entry? entries key = some value ↔ (key, value) ∈ entries :=
  ⟨mem_of_entry_eq_some, entry_eq_some_of_mem hdistinct⟩

/-- The order of the entries does not matter, nor do those under other keys. -/
theorem entry_congr {others : List (String × Json)} (hdistinct : (entries.map Prod.fst).Nodup)
    (hothers : (others.map Prod.fst).Nodup)
    (h : ∀ value, (key, value) ∈ others ↔ (key, value) ∈ entries) :
    entry? others key = entry? entries key := by
  apply Option.ext
  intro value
  rw [entry_eq_some_iff hdistinct, entry_eq_some_iff hothers]
  exact h value

end Entries

end Json

namespace Configuration

/-! ## The input -/

/-- The integers that 64 bits hold with their sign. -/
def InRange (n : Int) : Prop :=
  -9223372036854775808 ≤ n ∧ n ≤ 9223372036854775807

theorem inRange_toInt (n : Int64) : InRange n.toInt :=
  ⟨n.minValue_le_toInt, n.toInt_le⟩

section Input

variable {value : Json} {n : Int64}

theorem inputOfJson_of_inRange {i : Int} (h : InRange i) :
    inputOfJson (.integer i) = .ok (Int64.ofInt i) :=
  if_pos h

theorem inputOfJson_toInt (n : Int64) : inputOfJson (.integer n.toInt) = .ok n := by
  rw [inputOfJson_of_inRange (inRange_toInt n), Int64.ofInt_toInt]

theorem toInt_ofInt_of_inRange {i : Int} (h : InRange i) : (Int64.ofInt i).toInt = i :=
  Int64.toInt_ofInt_of_le h.1 (Int.lt_add_one_of_le h.2)

/-- A number beyond the range is not read as one within it. -/
theorem exists_error_of_not_inRange {i : Int} (h : ¬ InRange i) :
    ∃ mismatch, inputOfJson (.integer i) = .error mismatch := by
  have hbeyond : inputOfJson (.integer i) =
      if Json.fitsWord i then .error (.unfit (.integer i) "i64")
      else .error (.wrongKind (.integer i) "i64") := if_neg h
  rw [hbeyond]
  by_cases hword : Json.fitsWord i = true
  · exact ⟨_, if_pos hword⟩
  · exact ⟨_, if_neg hword⟩

/-- Nothing but an integer within the range is an input. -/
theorem inputOfJson_cases (value : Json) :
    (∃ n : Int64, value = .integer n.toInt ∧ inputOfJson value = .ok n) ∨
    (∀ i, InRange i → value ≠ .integer i) ∧ ∃ mismatch, inputOfJson value = .error mismatch := by
  cases value with
  | integer i =>
    by_cases hrange : InRange i
    · refine .inl ⟨Int64.ofInt i, ?_, inputOfJson_of_inRange hrange⟩
      rw [toInt_ofInt_of_inRange hrange]
    · refine .inr ⟨?_, exists_error_of_not_inRange hrange⟩
      rintro j hj ⟨⟩
      exact hrange hj
  | null | bool | real | string | array | object =>
    exact .inr ⟨fun i _ heq => Json.noConfusion heq, _, rfl⟩

theorem inputOfJson_eq_ok_iff : inputOfJson value = .ok n ↔ value = .integer n.toInt := by
  constructor
  · intro h
    rcases inputOfJson_cases value with ⟨m, hvalue, hread⟩ | ⟨-, mismatch, hread⟩
    · rw [hread] at h
      cases h
      exact hvalue
    · rw [hread] at h
      cases h
  · rintro rfl
    exact inputOfJson_toInt n

end Input

/-! ## Objects and arrays -/

section Value

variable {entries : List (String × Json)} {value : Json} {n : Int64}

theorem ofJson_object_of_mem (hdistinct : (entries.map Prod.fst).Nodup)
    (h : ("input", value) ∈ entries) :
    ofJson (.object entries) = (inputOfJson value).map Configuration.mk := by
  rw [ofJson, Json.entry_eq_some_of_mem hdistinct h]

theorem ofJson_object_eq_ok_iff (hdistinct : (entries.map Prod.fst).Nodup) :
    ofJson (.object entries) = .ok ⟨n⟩ ↔ ("input", .integer n.toInt) ∈ entries := by
  constructor
  · intro h
    cases hentry : Json.entry? entries "input" with
    | none =>
      rw [ofJson, hentry] at h
      cases h
    | some value =>
      have hmem := Json.mem_of_entry_eq_some hentry
      rw [ofJson_object_of_mem hdistinct hmem, map_eq_ok_iff] at h
      obtain ⟨m, hread, hm⟩ := h
      cases hm
      rwa [inputOfJson_eq_ok_iff.mp hread] at hmem
  · intro h
    rw [ofJson_object_of_mem hdistinct h, inputOfJson_toInt]
    rfl

/-- Of two objects with the same input both are read, or neither, and with one result. -/
theorem ofJson_object_congr {others : List (String × Json)}
    (hdistinct : (entries.map Prod.fst).Nodup) (hothers : (others.map Prod.fst).Nodup)
    (h : ∀ value, ("input", value) ∈ others ↔ ("input", value) ∈ entries) :
    ofJson (.object others) = ofJson (.object entries) := by
  rw [ofJson, ofJson, Json.entry_congr hdistinct hothers h]

/-- The first item of an array is read before the items are counted. -/
theorem ofJson_array_of_error {mismatch : Json.Mismatch} (h : inputOfJson value = .error mismatch)
    (more : List Json) : ofJson (.array (value :: more)) = .error mismatch := by
  rw [ofJson, h]
  rfl

theorem ofJson_array_toInt (n : Int64) (more : List Json) :
    ofJson (.array (.integer n.toInt :: more)) =
      if more.isEmpty then .ok ⟨n⟩
      else .error (.length (more.length + 1) "fewer elements in array") := by
  rw [ofJson, inputOfJson_toInt, ok_bind_eq]

theorem ofJson_array_eq_ok_iff {items : List Json} :
    ofJson (.array items) = .ok ⟨n⟩ ↔ items = [.integer n.toInt] := by
  constructor
  · intro h
    cases items with
    | nil => cases h
    | cons first more =>
      rcases inputOfJson_cases first with ⟨m, rfl, -⟩ | ⟨-, mismatch, hread⟩
      · rw [ofJson_array_toInt] at h
        cases more with
        | nil =>
          cases h
          rfl
        | cons second rest => cases h
      · rw [ofJson_array_of_error hread] at h
        cases h
  · rintro rfl
    rw [ofJson_array_toInt, if_pos List.isEmpty_nil]

theorem ofJson_eq_ok_iff {json : Json} (hdistinct : json.KeysDistinct) :
    ofJson json = .ok ⟨n⟩ ↔
      (∃ entries, json = .object entries ∧ ("input", .integer n.toInt) ∈ entries) ∨
        json = .array [.integer n.toInt] := by
  cases json with
  | object entries =>
    rw [ofJson_object_eq_ok_iff hdistinct]
    simp only [Json.object.injEq, exists_eq_left', reduceCtorEq, or_false]
  | array items =>
    rw [ofJson_array_eq_ok_iff, Json.array.injEq]
    simp only [reduceCtorEq, false_and, exists_false, false_or]
  | null | bool | integer | real | string => simp [ofJson]

end Value

/--
A configuration with the input `i` is read exactly from the objects that have the
integer `i` under `input` and from the array of `i` alone, for `i` within 64 bits.
Whatever else stands in such a place, a larger integer or a real too, has one error,
that of an array of more items included. Objects with the same `input` are read alike,
whatever other entries they have in whatever order. And an array of two or more items
that starts with an input is refused for the number of its items.
-/
theorem ofJson_reads_input_alone :
    (∀ (json : Json) (i : Int), json.KeysDistinct →
      ((∃ n : Int64, ofJson json = .ok ⟨n⟩ ∧ n.toInt = i) ↔
        InRange i ∧
          ((∃ entries, json = .object entries ∧ ("input", .integer i) ∈ entries) ∨
            json = .array [.integer i]))) ∧
    (∀ value, (∀ i, InRange i → value ≠ .integer i) →
      ∃ mismatch, inputOfJson value = .error mismatch ∧
        (∀ entries, (entries.map Prod.fst).Nodup → ("input", value) ∈ entries →
          ofJson (.object entries) = .error mismatch) ∧
        ∀ more, ofJson (.array (value :: more)) = .error mismatch) ∧
    (∀ entries others, (entries.map Prod.fst).Nodup → (others.map Prod.fst).Nodup →
      (∀ value, ("input", value) ∈ others ↔ ("input", value) ∈ entries) →
      ofJson (.object others) = ofJson (.object entries)) ∧
    (∀ (i : Int) (second : Json) (more : List Json), InRange i →
      ∃ mismatch, ofJson (.array (.integer i :: second :: more)) = .error mismatch ∧
        mismatch.message =
          "invalid length " ++ (more.length + 2).repr ++ ", expected fewer elements in array") := by
  refine ⟨?_, ?_, fun entries others => ofJson_object_congr, ?_⟩
  · intro json i hdistinct
    constructor
    · rintro ⟨n, hread, rfl⟩
      exact ⟨inRange_toInt n, (ofJson_eq_ok_iff hdistinct).mp hread⟩
    · rintro ⟨hrange, hjson⟩
      rw [← toInt_ofInt_of_inRange hrange] at hjson
      exact ⟨Int64.ofInt i, (ofJson_eq_ok_iff hdistinct).mpr hjson, toInt_ofInt_of_inRange hrange⟩
  · intro value hvalue
    rcases inputOfJson_cases value with ⟨n, heq, -⟩ | ⟨-, mismatch, hread⟩
    · exact absurd heq (hvalue n.toInt (inRange_toInt n))
    · refine ⟨mismatch, hread, ?_, ofJson_array_of_error hread⟩
      intro entries hdistinct hmem
      rw [ofJson_object_of_mem hdistinct hmem, hread]
      rfl
  · intro i second more hrange
    have hexpected :
        ", expected " ++ "fewer elements in array" = ", expected fewer elements in array" := rfl
    rw [← toInt_ofInt_of_inRange hrange, ofJson_array_toInt]
    refine ⟨.length (more.length + 2) "fewer elements in array", rfl, ?_⟩
    exact String.append_assoc.trans (congrArg _ hexpected)

/-- The least input among other entries, and the number above the greatest, which is none. -/
theorem ofJson_reads_input_alone_at_bounds :
    let entries := [("mode", .null), ("input", .integer (-9223372036854775808))]
    let others := [("input", .integer (-9223372036854775808)), ("depth", .array [])]
    let beyond := Json.integer 9223372036854775808
    (Json.object entries).KeysDistinct ∧
    (∃ n : Int64, ofJson (.object entries) = .ok ⟨n⟩ ∧ n.toInt = -9223372036854775808) ∧
    ofJson (.object others) = ofJson (.object entries) ∧
    (∃ mismatch, inputOfJson beyond = .error mismatch ∧
      ofJson (.object [("input", beyond)]) = .error mismatch ∧
      ofJson (.array [beyond, .null]) = .error mismatch) ∧
    (∃ mismatch, ofJson (.array [.integer 5, .null, .null]) = .error mismatch ∧
      mismatch.message = "invalid length 3, expected fewer elements in array") := by
  intro entries others beyond
  obtain ⟨hread, hbeyond, hother, hlong⟩ := ofJson_reads_input_alone
  have hentries : (entries.map Prod.fst).Nodup := by decide
  have hothers : (others.map Prod.fst).Nodup := by decide
  have hleast : InRange (-9223372036854775808) := ⟨by decide, by decide⟩
  have hvalue : ∀ i, InRange i → beyond ≠ .integer i := by
    intro i hi heq
    rw [← Json.integer.inj heq] at hi
    exact absurd hi.2 (by decide)
  obtain ⟨mismatch, herror, hobject, harray⟩ := hbeyond beyond hvalue
  refine ⟨hentries, ?_, hother entries others hentries hothers ?_,
    ⟨mismatch, herror, ?_, ?_⟩, ?_⟩
  · exact (hread (.object entries) _ hentries).mpr ⟨hleast, .inl ⟨entries, rfl, .tail _ (.head _)⟩⟩
  · intro value
    simp [entries, others]
  · exact hobject [("input", beyond)] (by decide) (.head _)
  · exact harray [.null]
  · exact hlong 5 .null [.null] ⟨by decide, by decide⟩

end Configuration

end FactorialCheck
