import FactorialCheck.Text.CharacterClass

/-!
# White space

Characters with the property `White_Space`, and texts without them at either
end.
-/

namespace FactorialCheck

def CharacterClass.whiteSpace : CharacterClass :=
  ⟨[(0x9, 0xd), (0x20, 0x20), (0x85, 0x85), (0xa0, 0xa0), (0x1680, 0x1680), (0x2000, 0x200a),
    (0x2028, 0x2029), (0x202f, 0x202f), (0x205f, 0x205f), (0x3000, 0x3000)]⟩

/-- The text without white space at its beginning. -/
def trimStart (cs : List Char) : List Char :=
  cs.dropWhile CharacterClass.whiteSpace.holds

/-- The text without white space at both ends. -/
def trim (cs : List Char) : List Char :=
  (trimStart (trimStart cs).reverse).reverse

/-- What is cut off the end of a text is white space. -/
theorem exists_trim_append (cs : List Char) :
    ∃ blanks, trim cs ++ blanks = trimStart cs ∧
      ∀ c ∈ blanks, CharacterClass.whiteSpace.holds c = true := by
  let reversed := (trimStart cs).reverse
  refine ⟨(reversed.takeWhile CharacterClass.whiteSpace.holds).reverse, ?_, ?_⟩
  · rw [trim, trimStart, ← List.reverse_append, List.takeWhile_append_dropWhile,
      List.reverse_reverse]
  · intro c hc
    exact List.all_eq_true.mp List.all_takeWhile c (List.mem_reverse.mp hc)

/-- A text that begins with another character keeps it. -/
theorem exists_trim_cons {c : Char} (h : CharacterClass.whiteSpace.holds c = false)
    (rest : List Char) :
    ∃ more blanks, trim (c :: rest) = c :: more ∧ rest = more ++ blanks ∧
      ∀ b ∈ blanks, CharacterClass.whiteSpace.holds b = true := by
  obtain ⟨blanks, htext, hblanks⟩ := exists_trim_append (c :: rest)
  have hstart : trimStart (c :: rest) = c :: rest := List.dropWhile_cons_of_neg (by simp [h])
  rw [hstart] at htext
  cases htrim : trim (c :: rest) with
  | nil =>
    -- All of the text would be cut off, its beginning too.
    rw [htrim, List.nil_append] at htext
    rw [hblanks c (htext ▸ List.mem_cons_self)] at h
    cases h
  | cons d more =>
    rw [htrim, List.cons_append] at htext
    obtain ⟨rfl, hrest⟩ := List.cons.inj htext
    exact ⟨more, blanks, rfl, hrest.symm, hblanks⟩

end FactorialCheck
