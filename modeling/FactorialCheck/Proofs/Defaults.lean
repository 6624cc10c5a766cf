import FactorialCheck.Proofs.Loading
import FactorialCheck.Proofs.Results

/-!
# The default and what is set

The default is put in unless the exact name is taken, but the input is then read from
the last variable that spells the name in any case. So the default yields to the exact
name, and not to the other spellings that are read where the exact name is there too.
-/

namespace FactorialCheck.Configuration

/-- The input is read from a variable that was there before the load. -/
def ReadsPresent (env : Environment) : Prop :=
  ∃ v ∈ spellings env, (load env).1 = (readInput v.value).map Configuration.mk

variable {env : Environment}

theorem load_of_mem (h : "FACT_DRIVER_INPUT" ∈ env.names) :
    ∃ v, (spellings env).getLast? = some v ∧
      (load env).1 = (readInput v.value).map Configuration.mk := by
  obtain ⟨v, hlast⟩ := exists_last_spelling env
  have hload := congrArg Prod.fst (load_of_last hlast)
  rw [install_of_mem h] at hlast
  exact ⟨v, hlast, hload⟩

/-- The default comes last, whatever other spellings there are. -/
theorem load_of_not_mem (h : "FACT_DRIVER_INPUT" ∉ env.names) : (load env).1 = .ok ⟨5⟩ := by
  have hlast : (spellings (install env)).getLast? = some ⟨"FACT_DRIVER_INPUT", "5"⟩ := by
    rw [spellings_install_of_not_mem h, List.getLast?_concat]
  rw [load_of_last hlast]
  rfl

theorem readsPresent_iff :
    ReadsPresent env ↔
      "FACT_DRIVER_INPUT" ∈ env.names ∨ ∃ v ∈ spellings env, readInput v.value = .ok 5 := by
  by_cases hmem : "FACT_DRIVER_INPUT" ∈ env.names
  · obtain ⟨v, hlast, hload⟩ := load_of_mem hmem
    exact iff_of_true ⟨v, List.mem_of_getLast? hlast, hload⟩ (.inl hmem)
  · rw [ReadsPresent, load_of_not_mem hmem, or_iff_right hmem]
    constructor
    · rintro ⟨v, hv, hread⟩
      obtain ⟨n, hn, hfive⟩ := map_eq_ok_iff.mp hread.symm
      cases hfive
      exact ⟨v, hv, hn⟩
    · rintro ⟨v, hv, hread⟩
      refine ⟨v, hv, ?_⟩
      rw [hread]
      rfl

/--
The default yields to the exact name alone. Where a variable of exactly the name
`FACT_DRIVER_INPUT` is set, the input is read from the last variable that spells it in
any case; where none is, the input is 5, whatever the other spellings say. So a
variable that was set is read exactly if the exact name is among them, or if one of
them happens to say 5.
-/
theorem default_yields_to_exact_name (env : Environment) :
    ("FACT_DRIVER_INPUT" ∈ env.names → ∃ v, (spellings env).getLast? = some v ∧
      (load env).1 = (readInput v.value).map Configuration.mk) ∧
    ("FACT_DRIVER_INPUT" ∉ env.names → (load env).1 = .ok ⟨5⟩) ∧
    (ReadsPresent env ↔
      "FACT_DRIVER_INPUT" ∈ env.names ∨ ∃ v ∈ spellings env, readInput v.value = .ok 5) :=
  ⟨load_of_mem, load_of_not_mem, readsPresent_iff⟩

/-- A variable in lower case supplies the input, and the default overrides it. -/
theorem default_overrides_lower_case :
    ¬ ∀ env : Environment, spellings env ≠ [] → ReadsPresent env := by
  intro h
  have hspellings : spellings (.ofList [⟨"fact_driver_input", "7"⟩]) =
      [⟨"fact_driver_input", "7"⟩] := rfl
  have hpresent := h (.ofList [⟨"fact_driver_input", "7"⟩]) (by rw [hspellings]; exact nofun)
  rcases readsPresent_iff.mp hpresent with hmem | ⟨v, hv, hread⟩
  · exact absurd hmem (by decide)
  · rw [hspellings, List.mem_singleton] at hv
    subst hv
    cases hread

end FactorialCheck.Configuration
