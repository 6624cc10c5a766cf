import FactorialCheck.Report

/-!
# Reports as text

A report is written as one line, whatever its numbers are.
-/

namespace FactorialCheck

/-- An integer is written with digits and a minus sign. -/
theorem mem_toList_repr {n : Int} {c : Char} (h : c ∈ n.repr.toList) :
    c = '-' ∨ c.isDigit = true := by
  cases n with
  | ofNat k =>
    change c ∈ k.repr.toList at h
    rw [Nat.toList_repr] at h
    exact .inr (Nat.isDigit_of_mem_toDigits (by decide) (by decide) h)
  | negSucc k =>
    change c ∈ ("-" ++ k.succ.repr).toList at h
    rw [String.toList_append, List.mem_append, Nat.toList_repr] at h
    rcases h with hsign | hdigits
    · exact .inl (List.mem_singleton.mp hsign)
    · exact .inr (Nat.isDigit_of_mem_toDigits (by decide) (by decide) hdigits)

namespace Report

/-- The texts that stand in the line of a report beside its numbers. -/
def jsonFrame : List (List Char) :=
  ["\x7b\"input\":".toList, ",\"recursive\":".toList, ",\"for_loop\":".toList,
    ",\"while_loop\":".toList, ",\"agrees\":".toList, "true".toList, "false".toList,
    "\x7d".toList]

theorem toList_json (report : Report) :
    report.json.toList =
      "\x7b\"input\":".toList ++ report.input.toInt.repr.toList
        ++ ",\"recursive\":".toList ++ (report.recursive.toNat : Int).repr.toList
        ++ ",\"for_loop\":".toList ++ (report.forLoop.toNat : Int).repr.toList
        ++ ",\"while_loop\":".toList ++ (report.whileLoop.toNat : Int).repr.toList
        ++ ",\"agrees\":".toList ++ (if report.agrees then "true" else "false").toList
        ++ "\x7d".toList := by
  cases h : report.agrees <;>
    simp [json, toJson, Json.compact, Json.chars, Json.entryChars, Json.quote, Json.escape, h]

theorem mem_json {report : Report} {c : Char} (h : c ∈ report.json.toList) :
    (∃ part ∈ jsonFrame, c ∈ part) ∨ c = '-' ∨ c.isDigit = true := by
  have hframe : ∀ part ∈ jsonFrame, c ∈ part →
      (∃ part ∈ jsonFrame, c ∈ part) ∨ c = '-' ∨ c.isDigit = true :=
    fun part hpart hc => .inl ⟨part, hpart, hc⟩
  rw [toList_json] at h
  simp only [List.mem_append] at h
  rcases h with (((((((((h | h) | h) | h) | h) | h) | h) | h) | h) | h) | h
  · exact hframe _ (by simp [jsonFrame]) h
  · exact .inr (mem_toList_repr h)
  · exact hframe _ (by simp [jsonFrame]) h
  · exact .inr (mem_toList_repr h)
  · exact hframe _ (by simp [jsonFrame]) h
  · exact .inr (mem_toList_repr h)
  · exact hframe _ (by simp [jsonFrame]) h
  · exact .inr (mem_toList_repr h)
  · exact hframe _ (by simp [jsonFrame]) h
  · refine hframe _ ?_ h
    cases report.agrees <;> simp [jsonFrame]
  · exact hframe _ (by simp [jsonFrame]) h

theorem not_mem_json {c : Char} (report : Report) (hframe : ∀ part ∈ jsonFrame, c ∉ part)
    (hsign : c ≠ '-') (hdigit : c.isDigit = false) : c ∉ report.json.toList := by
  intro h
  rcases mem_json h with ⟨part, hpart, hmem⟩ | rfl | htrue
  · exact hframe part hpart hmem
  · exact hsign rfl
  · rw [hdigit] at htrue
    cases htrue

theorem newline_not_mem_json (report : Report) : '\n' ∉ report.json.toList :=
  report.not_mem_json (by decide) (by decide) (by decide)

end Report

end FactorialCheck
