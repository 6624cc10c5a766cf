/-!
# Pieces

A text cut at every occurrence of a separator. There is one piece more than
there are separators.
-/

namespace FactorialCheck

def pieces (separator : Char) : List Char → List (List Char)
  | [] => [[]]
  | c :: rest =>
    match pieces separator rest with
    | [] => [[c]]
    | piece :: more =>
      if c = separator then [] :: piece :: more else (c :: piece) :: more

theorem pieces_ne_nil (separator : Char) (cs : List Char) : pieces separator cs ≠ [] := by
  cases cs with
  | nil => simp [pieces]
  | cons c rest =>
    unfold pieces
    split
    · simp
    · split <;> simp

/-- A text without the separator is one piece. -/
theorem pieces_of_not_mem {separator : Char} {cs : List Char} (h : separator ∉ cs) :
    pieces separator cs = [cs] := by
  induction cs with
  | nil => rfl
  | cons c rest ih =>
    rw [List.mem_cons, not_or] at h
    simp only [pieces, ih h.2, if_neg (Ne.symm h.1)]

/-- What stands before the first separator is the first piece. -/
theorem pieces_append_separator {separator : Char} {cs : List Char} (h : separator ∉ cs)
    (rest : List Char) :
    pieces separator (cs ++ separator :: rest) = cs :: pieces separator rest := by
  induction cs with
  | nil =>
    cases hrest : pieces separator rest with
    | nil => exact absurd hrest (pieces_ne_nil separator rest)
    | cons piece more => simp [pieces, hrest]
  | cons c cs ih =>
    rw [List.mem_cons, not_or] at h
    simp only [List.cons_append, pieces, ih h.2, if_neg (Ne.symm h.1)]

end FactorialCheck
