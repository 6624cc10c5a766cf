import FactorialCheck.Configuration
import FactorialCheck.Proofs.Environments

/-!
# Loading the configuration

The input is read from the last variable that spells `FACT_DRIVER_INPUT` in any
case, after the default was appended unless the exact name is taken. Nothing else
in the environment is looked at, and a second load finds what the first one left.
-/

namespace FactorialCheck

namespace Configuration

/-! ## Names that count -/

/-- Whether a name is that of the input, in any case. -/
def spellsInput (name : String) : Bool :=
  Ascii.sameIgnoringCase name "FACT_DRIVER_INPUT"

theorem spellsInput_iff {name : String} :
    spellsInput name = true ↔ (Ascii.lower name).toList = namesStart ++ "input".toList := by
  have hname : (Ascii.lower "FACT_DRIVER_INPUT").toList = namesStart ++ "input".toList := by
    decide
  rw [spellsInput, Ascii.sameIgnoringCase, beq_iff_eq, ← String.toList_inj, hname]

/-- Of a key without points every character stands in the name as well. -/
theorem eq_of_map_point {cs key : List Char} (hkey : '.' ∉ key)
    (h : cs.map (fun c => if c = '_' then '.' else c) = key) : cs = key := by
  induction cs generalizing key with
  | nil => exact h
  | cons c rest ih =>
    subst h
    rw [List.map_cons, List.mem_cons, not_or] at hkey
    have hplain : c ≠ '_' := by
      intro hc
      rw [if_pos hc] at hkey
      exact hkey.1 rfl
    rw [List.map_cons, if_neg hplain, ← ih hkey.2 rfl]

/-- Without its beginning, in lower case, a name is the key of the input exactly if it spells it. -/
theorem key?_eq_input_iff (name : String) : key? name = some "input" ↔ spellsInput name = true := by
  rw [spellsInput_iff, key?]
  generalize (Ascii.lower name).toList = cs
  have hpoints :
      ("input".toList.map fun c => if c = '_' then '.' else c) = "input".toList := by decide
  constructor
  · intro h
    split at h
    · rename_i hstart
      obtain ⟨rest, rfl⟩ := List.isPrefixOf_iff_prefix.mp hstart
      rw [List.drop_left, Option.some.injEq, ← String.toList_inj, String.toList_ofList] at h
      rw [eq_of_map_point (by decide) h]
    · cases h
  · intro h
    have hstart : namesStart.isPrefixOf cs = true := by
      rw [h, List.isPrefixOf_iff_prefix]
      exact List.prefix_append ..
    rw [if_pos hstart, h, List.drop_left, hpoints, String.ofList_toList]

theorem suppliesInput_eq : suppliesInput = fun v => spellsInput v.name := by
  funext v
  rw [Bool.eq_iff_iff, ← key?_eq_input_iff, suppliesInput, beq_iff_eq]

/-- The variables that can supply the input, in their order. -/
def spellings (env : Environment) : List Variable :=
  env.toList.filter fun v => spellsInput v.name

theorem spellings_eq_nil_iff {env : Environment} :
    spellings env = [] ↔ ∀ v ∈ env.toList, spellsInput v.name = false := by
  rw [spellings, List.filter_eq_nil_iff]
  simp only [Bool.not_eq_true]

theorem inputText?_eq (env : Environment) :
    inputText? env = (spellings env).getLast?.map Variable.value := by
  rw [inputText?, spellings, suppliesInput_eq]

theorem spellings_set_of_spells {name : String} (env : Environment) (value : String)
    (h : spellsInput name = true) :
    spellings (env.set name value) = Environment.assign name value (spellings env) :=
  Environment.filter_assign_of_pos spellsInput h

theorem spellings_set_of_not {name : String} (env : Environment) (value : String)
    (h : spellsInput name = false) : spellings (env.set name value) = spellings env :=
  Environment.filter_assign spellsInput h

theorem spellings_unset (env : Environment) (name : String) :
    spellings (env.unset name) = (spellings env).filter fun v => v.name ≠ name := by
  rw [spellings, spellings, Environment.unset, List.filter_filter, List.filter_filter]
  apply List.filter_congr
  intro v _
  exact Bool.and_comm ..

theorem spellings_unset_of_not {name : String} (env : Environment)
    (h : spellsInput name = false) : spellings (env.unset name) = spellings env := by
  rw [spellings_unset]
  apply List.filter_eq_self.mpr
  intro v hv
  have hspells : spellsInput v.name = true := (List.mem_filter.mp hv).2
  have hne : v.name ≠ name := by
    rintro rfl
    rw [h] at hspells
    cases hspells
  exact decide_eq_true hne

/-! ## The default -/

theorem install_of_mem {env : Environment} (h : "FACT_DRIVER_INPUT" ∈ env.names) :
    install env = env :=
  if_pos (Environment.contains_iff.mpr h)

theorem install_of_not_mem {env : Environment} (h : "FACT_DRIVER_INPUT" ∉ env.names) :
    install env = env.set "FACT_DRIVER_INPUT" "5" :=
  if_neg fun hcontains => h (Environment.contains_iff.mp hcontains)

theorem mem_names_install (env : Environment) : "FACT_DRIVER_INPUT" ∈ (install env).names :=
  Environment.contains_iff.mp (contains_install env)

/-- The default is installed once. -/
theorem install_install (env : Environment) : install (install env) = install env :=
  install_of_mem (mem_names_install env)

theorem toList_install_of_not_mem {env : Environment} (h : "FACT_DRIVER_INPUT" ∉ env.names) :
    (install env).toList = env.toList ++ [⟨"FACT_DRIVER_INPUT", "5"⟩] := by
  rw [install_of_not_mem h, Environment.toList_set_of_not_mem env "5" h]

/-- A variable of another name can be taken away before the default is set or after it. -/
theorem install_unset {name : String} (env : Environment) (h : name ≠ "FACT_DRIVER_INPUT") :
    install (env.unset name) = (install env).unset name := by
  by_cases hmem : "FACT_DRIVER_INPUT" ∈ env.names
  · rw [install_of_mem hmem, install_of_mem ((env.mem_names_unset_of_ne h).mpr hmem)]
  · have hnot : "FACT_DRIVER_INPUT" ∉ (env.unset name).names :=
      fun hother => hmem ((env.mem_names_unset_of_ne h).mp hother)
    apply Environment.eq_of_toList
    rw [toList_install_of_not_mem hnot, Environment.toList_unset, Environment.toList_unset,
      toList_install_of_not_mem hmem, List.filter_append,
      List.filter_cons_of_pos (by simpa using h.symm)]
    rfl

/-- Whether the exact name is taken can be seen from the variables that spell it. -/
theorem mem_names_iff_spellings (env : Environment) :
    "FACT_DRIVER_INPUT" ∈ env.names ↔
      "FACT_DRIVER_INPUT" ∈ (spellings env).map Variable.name := by
  rw [Environment.names, spellings]
  constructor
  · intro h
    obtain ⟨v, hv, hname⟩ := List.mem_map.mp h
    have hspells : spellsInput v.name = true := by
      rw [hname]
      rfl
    exact List.mem_map.mpr ⟨v, List.mem_filter.mpr ⟨hv, hspells⟩, hname⟩
  · intro h
    obtain ⟨v, hv, hname⟩ := List.mem_map.mp h
    exact List.mem_map.mpr ⟨v, (List.mem_filter.mp hv).1, hname⟩

theorem spellings_install_of_not_mem {env : Environment} (h : "FACT_DRIVER_INPUT" ∉ env.names) :
    spellings (install env) = spellings env ++ [⟨"FACT_DRIVER_INPUT", "5"⟩] := by
  rw [spellings, toList_install_of_not_mem h, List.filter_append]
  rfl

/-- What a load finds depends on the variables that spell the name alone. -/
theorem spellings_install_congr {env other : Environment} (h : spellings other = spellings env) :
    spellings (install other) = spellings (install env) := by
  have htaken : "FACT_DRIVER_INPUT" ∈ other.names ↔ "FACT_DRIVER_INPUT" ∈ env.names := by
    rw [mem_names_iff_spellings, mem_names_iff_spellings, h]
  by_cases hmem : "FACT_DRIVER_INPUT" ∈ env.names
  · rw [install_of_mem hmem, install_of_mem (htaken.mpr hmem), h]
  · rw [spellings_install_of_not_mem hmem,
      spellings_install_of_not_mem (fun hother => hmem (htaken.mp hother)), h]

/-! ## The result -/

theorem load_of_last {env : Environment} {v : Variable}
    (h : (spellings (install env)).getLast? = some v) :
    load env = ((readInput v.value).map Configuration.mk, install env) := by
  have htext : inputText? (install env) = some v.value := by
    rw [inputText?_eq, h]
    rfl
  rw [load]
  simp only [htext, Option.get_some]

/-- There is always something to read. -/
theorem exists_last_spelling (env : Environment) :
    ∃ v, (spellings (install env)).getLast? = some v := by
  have hsome := isSome_inputText?_install env
  rw [inputText?_eq, Option.isSome_map] at hsome
  exact Option.isSome_iff_exists.mp hsome

theorem load_congr {env other : Environment} (h : spellings other = spellings env) :
    (load other).1 = (load env).1 := by
  obtain ⟨v, hlast⟩ := exists_last_spelling env
  have hother : (spellings (install other)).getLast? = some v := by
    rw [spellings_install_congr h, hlast]
  rw [load_of_last hlast, load_of_last hother]

theorem load_unset {name : String} (env : Environment) (h : spellsInput name = false) :
    (load (env.unset name)).1 = (load env).1 :=
  load_congr (spellings_unset_of_not env h)

/--
A load leaves the environment as it is if it has a variable of exactly the name
`FACT_DRIVER_INPUT`, and otherwise appends that variable with its default; so it
does whether or not it succeeds. What it answers is the reading of the last
variable that then spells the name in any case: two environments with the same
such variables give the same answer, whatever else is in them. A second load
repeats the answer of the first and changes nothing.
-/
theorem load_reads_last_spelling (env : Environment) :
    ("FACT_DRIVER_INPUT" ∈ env.names → (load env).2 = env) ∧
    ("FACT_DRIVER_INPUT" ∉ env.names →
      (load env).2.toList = env.toList ++ [⟨"FACT_DRIVER_INPUT", "5"⟩]) ∧
    (∃ v, (spellings (load env).2).getLast? = some v ∧
      (load env).1 = (readInput v.value).map Configuration.mk) ∧
    (∀ other : Environment, spellings other = spellings env → (load other).1 = (load env).1) ∧
    load (load env).2 = load env := by
  obtain ⟨v, hlast⟩ := exists_last_spelling env
  refine ⟨install_of_mem, toList_install_of_not_mem, ⟨v, hlast, ?_⟩, fun other => load_congr, ?_⟩
  · rw [load_of_last hlast]
  · have hagain : (spellings (install (install env))).getLast? = some v := by
      rw [install_install, hlast]
    have hsecond : load (install env) = load env := by
      rw [load_of_last hagain, load_of_last hlast, install_install]
    exact hsecond

/-! ## What stands -/

/--
Of all spellings of the input variable there is at most the exact one: with the
value that stands, or else with the default, if a load left it behind.
-/
def Stands (value : Option String) (env : Environment) : Prop :=
  spellings env = [⟨"FACT_DRIVER_INPUT", value.getD "5"⟩] ∨ value = none ∧ spellings env = []

/-- The configuration by the value of the input variable. -/
def ofValue : Option String → Except ConfigurationError Configuration
  | some text => (readInput text).map Configuration.mk
  | none => .ok ⟨5⟩

section Stands

variable {value : Option String} {env : Environment}

theorem Stands.spellings_install (h : Stands value env) :
    spellings (install env) = [⟨"FACT_DRIVER_INPUT", value.getD "5"⟩] := by
  rcases h with h | ⟨hnone, h⟩
  · have hmem : "FACT_DRIVER_INPUT" ∈ env.names := by
      rw [mem_names_iff_spellings, h]
      exact List.mem_singleton.mpr rfl
    rw [install_of_mem hmem, h]
  · have hnot : "FACT_DRIVER_INPUT" ∉ env.names := by
      rw [mem_names_iff_spellings, h]
      exact List.not_mem_nil
    rw [spellings_install_of_not_mem hnot, h, hnone]
    rfl

theorem Stands.install (h : Stands value env) : Stands value (install env) :=
  .inl h.spellings_install

theorem Stands.set (h : Stands value env) (text : String) :
    Stands (some text) (env.set "FACT_DRIVER_INPUT" text) := by
  have hspells : spellsInput "FACT_DRIVER_INPUT" = true := rfl
  apply Or.inl
  rw [spellings_set_of_spells env text hspells]
  rcases h with h | ⟨-, h⟩
  · rw [h]
    rfl
  · rw [h]
    rfl

theorem Stands.set_of_not {name : String} (h : Stands value env) (text : String)
    (hname : spellsInput name = false) : Stands value (env.set name text) := by
  rw [Stands, spellings_set_of_not env text hname]
  exact h

theorem Stands.unset (h : Stands value env) :
    Stands none (env.unset "FACT_DRIVER_INPUT") := by
  refine .inr ⟨rfl, ?_⟩
  rw [spellings_unset]
  rcases h with h | ⟨-, h⟩
  · rw [h]
    rfl
  · rw [h]
    rfl

theorem Stands.unset_of_ne {name : String} (h : Stands value env)
    (hname : name ≠ "FACT_DRIVER_INPUT") : Stands value (env.unset name) := by
  rw [Stands, spellings_unset]
  rcases h with h | ⟨hnone, h⟩
  · rw [h, List.filter_cons_of_pos (by simpa using hname.symm)]
    exact .inl rfl
  · rw [h]
    exact .inr ⟨hnone, rfl⟩

/-- A load reads the value that stands. -/
theorem Stands.load (h : Stands value env) : (load env).1 = ofValue value := by
  have hlast : (spellings (Configuration.install env)).getLast? =
      some ⟨"FACT_DRIVER_INPUT", value.getD "5"⟩ := by
    rw [h.spellings_install]
    rfl
  rw [load_of_last hlast]
  cases value with
  | some text => rfl
  | none => rfl

end Stands

end Configuration

end FactorialCheck
