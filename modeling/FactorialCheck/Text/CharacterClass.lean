/-!
# Character classes

A class of characters is given by the runs of code points that belong to it.
-/

namespace FactorialCheck

/-- First and last code points of the runs of a class. -/
structure CharacterClass where
  ranges : List (Nat × Nat)

namespace CharacterClass

def holds (self : CharacterClass) (c : Char) : Bool :=
  self.ranges.any fun (first, last) => first ≤ c.toNat && c.toNat ≤ last

theorem holds_of_mem {self : CharacterClass} {c : Char} (first last : Nat)
    (hmem : (first, last) ∈ self.ranges) (hfirst : first ≤ c.toNat) (hlast : c.toNat ≤ last) :
    self.holds c := by
  simp only [holds, List.any_eq_true]
  exact ⟨(first, last), hmem, by simp [hfirst, hlast]⟩

end CharacterClass

end FactorialCheck
