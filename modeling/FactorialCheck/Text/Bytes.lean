/-!
# Cuts by bytes

A text is cut at a number of bytes of its UTF-8 form. There is no cut inside a
character, nor behind the end of the text.
-/

namespace FactorialCheck

def byteCount : List Char → Nat
  | [] => 0
  | c :: rest => c.utf8Size + byteCount rest

/-- The two parts of a text that is cut behind its first `n` bytes. -/
def cutAt? : Nat → List Char → Option (List Char × List Char)
  | 0, cs => some ([], cs)
  | _ + 1, [] => none
  | n + 1, c :: rest =>
    if c.utf8Size ≤ n + 1 then
      (cutAt? (n + 1 - c.utf8Size) rest).map fun (first, last) => (c :: first, last)
    else none

/-- What stands between two cuts. -/
def slice? (start stop : Nat) (cs : List Char) : Option (List Char) := do
  let (before, _) ← cutAt? stop cs
  let (_, between) ← cutAt? start before
  return between

theorem byteCount_cons (c : Char) (cs : List Char) :
    byteCount (c :: cs) = c.utf8Size + byteCount cs :=
  rfl

theorem byteCount_append (first last : List Char) :
    byteCount (first ++ last) = byteCount first + byteCount last := by
  induction first with
  | nil => exact (Nat.zero_add _).symm
  | cons c first ih => rw [List.cons_append, byteCount_cons, byteCount_cons, ih, Nat.add_assoc]

@[simp] theorem cutAt?_zero (cs : List Char) : cutAt? 0 cs = some ([], cs) := by
  cases cs <;> rfl

/-- The bytes of a first part lead back to it. -/
theorem cutAt?_byteCount (first last : List Char) :
    cutAt? (byteCount first) (first ++ last) = some (first, last) := by
  induction first with
  | nil => exact cutAt?_zero last
  | cons c first ih =>
    have hpos := c.utf8Size_pos
    obtain ⟨n, hn⟩ : ∃ n, byteCount (c :: first) = n + 1 :=
      ⟨byteCount (c :: first) - 1, by rw [byteCount_cons]; omega⟩
    have hrest : n + 1 - c.utf8Size = byteCount first := by rw [byteCount_cons] at hn; omega
    have hfits : c.utf8Size ≤ n + 1 := by rw [byteCount_cons] at hn; omega
    rw [hn, List.cons_append, cutAt?, if_pos hfits, hrest, ih]
    rfl

theorem slice?_byteCount (before between after : List Char) :
    slice? (byteCount before) (byteCount before + byteCount between)
      (before ++ between ++ after) = some between := by
  rw [slice?, ← byteCount_append, cutAt?_byteCount]
  simp only [Option.bind_eq_bind, Option.bind_some, cutAt?_byteCount]
  rfl

end FactorialCheck
