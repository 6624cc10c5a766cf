import FactorialCheck.Text.Ascii
import Mathlib.Data.List.Forall2

/-!
# Texts up to case

What the comparison that ignores the case of ASCII letters takes for the same, said of
the letters one by one.
-/

namespace FactorialCheck.Ascii

/-- One character, or the two cases of a letter from `A` to `Z`. -/
inductive SameLetter : Char → Char → Prop where
  | same (c : Char) : SameLetter c c
  | lowered {upper lower : Char} : 65 ≤ upper.toNat → upper.toNat ≤ 90 →
      lower.toNat = upper.toNat + 32 → SameLetter upper lower
  | raised {upper lower : Char} : 65 ≤ upper.toNat → upper.toNat ≤ 90 →
      lower.toNat = upper.toNat + 32 → SameLetter lower upper

/-- Texts that differ at most in the case of ASCII letters. -/
def SameUpToCase (a b : String) : Prop :=
  List.Forall₂ SameLetter a.toList b.toList

theorem toNat_toLower (c : Char) :
    c.toLower.toNat = if 65 ≤ c.toNat ∧ c.toNat ≤ 90 then c.toNat + 32 else c.toNat := by
  have hupper : (c.val ≥ 'A'.val ∧ c.val ≤ 'Z'.val) ↔ 65 ≤ c.toNat ∧ c.toNat ≤ 90 := Iff.rfl
  by_cases h : 65 ≤ c.toNat ∧ c.toNat ≤ 90
  · have hlower : c.toLower = ⟨c.val + ('a'.val - 'A'.val), _⟩ := dif_pos (hupper.mpr h)
    rw [hlower, if_pos h]
    have hshift : (c.val + ('a'.val - 'A'.val)).toNat = (c.toNat + 32) % 4294967296 :=
      UInt32.toNat_add ..
    rw [Nat.mod_eq_of_lt (by omega)] at hshift
    exact hshift
  · have hsame : c.toLower = c := dif_neg (hupper.not.mpr h)
    rw [hsame, if_neg h]

theorem toLower_eq_iff {c d : Char} : c.toLower = d.toLower ↔ SameLetter c d := by
  rw [← Char.toNat_inj, toNat_toLower, toNat_toLower]
  constructor
  · intro h
    by_cases hc : 65 ≤ c.toNat ∧ c.toNat ≤ 90
    · by_cases hd : 65 ≤ d.toNat ∧ d.toNat ≤ 90
      · rw [if_pos hc, if_pos hd, Nat.add_right_cancel_iff, Char.toNat_inj] at h
        exact h ▸ .same c
      · rw [if_pos hc, if_neg hd] at h
        exact .lowered hc.1 hc.2 h.symm
    · by_cases hd : 65 ≤ d.toNat ∧ d.toNat ≤ 90
      · rw [if_neg hc, if_pos hd] at h
        exact .raised hd.1 hd.2 h
      · rw [if_neg hc, if_neg hd, Char.toNat_inj] at h
        exact h ▸ .same c
  · intro h
    cases h with
    | same => rfl
    | lowered hfirst hlast hlower => rw [if_pos ⟨hfirst, hlast⟩, if_neg (by omega), hlower]
    | raised hfirst hlast hlower => rw [if_neg (by omega), if_pos ⟨hfirst, hlast⟩, hlower]

theorem sameIgnoringCase_iff {a b : String} :
    sameIgnoringCase a b = true ↔ SameUpToCase a b := by
  rw [sameIgnoringCase, beq_iff_eq, ← String.toList_inj, toList_lower, toList_lower,
    ← List.forall₂_eq_eq_eq, List.forall₂_map_left_iff, List.forall₂_map_right_iff, SameUpToCase]
  simp only [toLower_eq_iff]

end FactorialCheck.Ascii
