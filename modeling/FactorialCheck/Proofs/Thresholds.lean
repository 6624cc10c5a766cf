import FactorialCheck.Log.Level
import FactorialCheck.Proofs.LetterCase
import FactorialCheck.Proofs.Numerals
import FactorialCheck.Proofs.Results

/-!
# Thresholds as they are written

A threshold is read exactly from its name in any case and from its number.
-/

namespace FactorialCheck.Log.Threshold

/--
The ways to write a threshold: its name in any case of ASCII letters, or its number,
which may have leading zeros and a plus sign before them.
-/
inductive Spelled (threshold : Threshold) (text : String) : Prop where
  | name : Ascii.SameUpToCase threshold.name text → Spelled threshold text
  | number : Numeral.Digits text.toList threshold.rank → Spelled threshold text
  | signed {digits : List Char} : text.toList = '+' :: digits →
      Numeral.Digits digits threshold.rank → Spelled threshold text

/-! ## Names -/

theorem mem_all (threshold : Threshold) : threshold ∈ all :=
  List.mem_of_getElem? (all_getElem?_rank threshold)

theorem lower_name (threshold : Threshold) : Ascii.lower threshold.name = threshold.name := by
  cases threshold with
  | off => decide
  | upTo level => cases level <;> decide

/-- No two thresholds have names that differ in case alone. -/
theorem eq_of_sameIgnoringCase {a b : Threshold} {text : String}
    (ha : Ascii.sameIgnoringCase a.name text = true)
    (hb : Ascii.sameIgnoringCase b.name text = true) : a = b := by
  have hall : ∀ a ∈ all, ∀ b ∈ all, a.name = b.name → a = b := by decide
  rw [Ascii.sameIgnoringCase, beq_iff_eq, lower_name] at ha hb
  exact hall a (mem_all a) b (mem_all b) (ha.trans hb.symm)

/-- A name in any case is found in the list of all thresholds, and nothing else. -/
theorem find?_name_eq_some_iff {text : String} {threshold : Threshold} :
    (all.find? fun threshold => Ascii.sameIgnoringCase threshold.name text) = some threshold ↔
      Ascii.sameIgnoringCase threshold.name text = true :=
  find?_eq_some_iff_of_unique (fun _ _ _ _ => eq_of_sameIgnoringCase) (mem_all threshold)

/-- No name begins like a number. -/
theorem sameIgnoringCase_name_of_number {text : String} {c : Char} {rest : List Char}
    (htext : text.toList = c :: rest) (hc : c.isDigit = true ∨ c = '+') (threshold : Threshold) :
    Ascii.sameIgnoringCase threshold.name text = false := by
  have hheads : ∀ threshold ∈ all,
      (threshold.name.toList.head?.any fun c => c.isDigit || c == '+') = false := by decide
  have hlower : c.toLower = c := by
    have hnat : c.toNat ≤ 57 := by
      rcases hc with hdigit | rfl
      · exact (Char.isDigit_iff_toNat.mp hdigit).2
      · decide
    rw [← Char.toNat_inj, Ascii.toNat_toLower, if_neg (by omega)]
  rw [Bool.eq_false_iff]
  intro hsame
  rw [Ascii.sameIgnoringCase, beq_iff_eq, lower_name, ← String.toList_inj, Ascii.toList_lower,
    htext, List.map_cons, hlower] at hsame
  have hhead := hheads threshold (mem_all threshold)
  rw [hsame, List.head?_cons, Option.any_some, Bool.or_eq_false_iff, beq_eq_false_iff_ne] at hhead
  rcases hc with hdigit | hplus
  · rw [hhead.1] at hdigit
    cases hdigit
  · exact hhead.2 hplus

/-! ## Numbers -/

theorem all_getElem?_eq_some_iff {n : Nat} {threshold : Threshold} :
    all[n]? = some threshold ↔ threshold.rank = n := by
  constructor
  · intro h
    have hnodup : all.Nodup := by decide
    have hlength : threshold.rank < all.length :=
      (List.getElem?_eq_some_iff.mp (all_getElem?_rank threshold)).1
    exact (List.getElem?_inj hlength hnodup).mp ((all_getElem?_rank threshold).trans h.symm)
  · rintro rfl
    exact all_getElem?_rank threshold

/-- What is no name in any case is a number, and begins like one. -/
theorem Spelled.name_or_number {text : String} {threshold : Threshold}
    (h : threshold.Spelled text) :
    Ascii.sameIgnoringCase threshold.name text = true ∨
      ((∃ c rest, text.toList = c :: rest ∧ (c.isDigit = true ∨ c = '+')) ∧
        Numeral.unsigned (UInt64.size - 1) text.toList = .ok threshold.rank) := by
  have hbound : threshold.rank ≤ UInt64.size - 1 := by
    have hsmall : ∀ threshold ∈ all, threshold.rank ≤ 5 := by decide
    have hle := hsmall threshold (mem_all threshold)
    have hsize : 5 ≤ UInt64.size - 1 := by decide
    omega
  cases h with
  | name hname => exact .inl (Ascii.sameIgnoringCase_iff.mpr hname)
  | number hdigits =>
    refine .inr ⟨?_, (Numeral.unsigned_eq_ok_iff _).mpr ⟨.inl hdigits, hbound⟩⟩
    obtain ⟨c, rest, htext⟩ := List.exists_cons_of_ne_nil hdigits.ne_nil
    exact ⟨c, rest, htext, .inl (htext ▸ hdigits).head_isDigit⟩
  | signed htext hdigits =>
    exact .inr ⟨⟨_, _, htext, .inr rfl⟩,
      (Numeral.unsigned_eq_ok_iff _).mpr ⟨.inr ⟨_, htext, hdigits⟩, hbound⟩⟩

theorem spelled_of_unsigned {text : String} {threshold : Threshold}
    (h : Numeral.unsigned (UInt64.size - 1) text.toList = .ok threshold.rank) :
    threshold.Spelled text := by
  obtain ⟨hdigits | ⟨rest, htext, hdigits⟩, -⟩ := (Numeral.unsigned_eq_ok_iff _).mp h
  · exact .number hdigits
  · exact .signed htext hdigits

/-- What is read as a number stands for the threshold of this number. -/
theorem readUnsigned_threshold_iff {text : String} {threshold : Threshold} :
    (∃ value, Numeral.readUnsigned text = .ok value ∧ all[value.toNat]? = some threshold) ↔
      Numeral.unsigned (UInt64.size - 1) text.toList = .ok threshold.rank := by
  have htoNat {m : Nat} (h : Numeral.unsigned (UInt64.size - 1) text.toList = .ok m) :
      (UInt64.ofNat m).toNat = m := by
    have hle := ((Numeral.unsigned_eq_ok_iff _).mp h).2
    have hpos : 0 < UInt64.size := by decide
    exact UInt64.toNat_ofNat_of_lt' (by omega)
  simp only [Numeral.readUnsigned, map_eq_ok_iff, all_getElem?_eq_some_iff]
  constructor
  · rintro ⟨_, ⟨m, hm, rfl⟩, hrank⟩
    rw [hrank, htoNat hm, hm]
  · intro h
    exact ⟨_, ⟨_, h, rfl⟩, (htoNat h).symm⟩

/-! ## Spellings -/

/-- Exactly the spellings of a threshold are read as this threshold. -/
theorem ofText?_eq_some_iff {text : String} {threshold : Threshold} :
    ofText? text = some threshold ↔ threshold.Spelled text := by
  cases hfind : all.find? fun threshold => Ascii.sameIgnoringCase threshold.name text with
  | some other =>
    have hother := find?_name_eq_some_iff.mp hfind
    have hread : ofText? text = some other := by rw [ofText?, hfind]
    rw [hread, Option.some.injEq]
    constructor
    · rintro rfl
      exact .name (Ascii.sameIgnoringCase_iff.mp hother)
    · intro h
      rcases h.name_or_number with hname | ⟨⟨c, rest, htext, hc⟩, -⟩
      · exact eq_of_sameIgnoringCase hother hname
      · rw [sameIgnoringCase_name_of_number htext hc other] at hother
        cases hother
  | none =>
    have hread : ofText? text = some threshold ↔
        ∃ value, Numeral.readUnsigned text = .ok value ∧ all[value.toNat]? = some threshold := by
      rw [ofText?, hfind]
      cases Numeral.readUnsigned text with
      | ok value => simp
      | error fault => simp
    rw [hread, readUnsigned_threshold_iff]
    constructor
    · exact spelled_of_unsigned
    · intro h
      rcases h.name_or_number with hname | ⟨-, hnumber⟩
      · exact absurd hname (List.find?_eq_none.mp hfind threshold (mem_all threshold))
      · exact hnumber

theorem ofText?_eq_none_iff {text : String} :
    ofText? text = none ↔ ∀ threshold : Threshold, ¬ threshold.Spelled text := by
  simp only [Option.eq_none_iff_forall_ne_some, ne_eq, ofText?_eq_some_iff]

instance (threshold : Threshold) (text : String) : Decidable (threshold.Spelled text) :=
  decidable_of_iff _ ofText?_eq_some_iff

end FactorialCheck.Log.Threshold
