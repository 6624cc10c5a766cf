import FactorialCheck.Environment

/-!
# Setting and unsetting

What a change of one variable does to the others: nothing. A variable that stays
keeps its place.
-/

namespace FactorialCheck

namespace Environment

def names (env : Environment) : List String :=
  env.toList.map Variable.name

/-! ## Lists of variables -/

section Assign

variable {name value : String} {vs : List Variable}

theorem assign_of_not_mem (h : name ∉ vs.map Variable.name) :
    assign name value vs = vs ++ [⟨name, value⟩] := by
  induction vs with
  | nil => rfl
  | cons v rest ih =>
    rw [List.map_cons, List.mem_cons, not_or] at h
    rw [assign, if_neg (fun heq => h.1 heq.symm), ih h.2]
    rfl

/-- Where the name is taken already, no name changes its place. -/
theorem names_assign_of_mem (h : name ∈ vs.map Variable.name) :
    (assign name value vs).map Variable.name = vs.map Variable.name := by
  induction vs with
  | nil => cases h
  | cons v rest ih =>
    by_cases hv : v.name = name
    · rw [assign, if_pos hv, List.map_cons, List.map_cons, hv]
    · rw [List.map_cons, List.mem_cons] at h
      have hrest := h.resolve_left (fun heq => hv heq.symm)
      rw [assign, if_neg hv, List.map_cons, List.map_cons, ih hrest]

/-- The variables of other names are the same as before. -/
theorem filter_assign (p : String → Bool) (h : p name = false) :
    (assign name value vs).filter (fun v => p v.name) = vs.filter (fun v => p v.name) := by
  induction vs with
  | nil => simp [assign, h]
  | cons v rest ih =>
    by_cases hv : v.name = name
    · simp [assign, hv, h]
    · rw [assign, if_neg hv, List.filter_cons, List.filter_cons, ih]

/-- Among variables that include those of the name it is set just the same. -/
theorem filter_assign_of_pos (p : String → Bool) (h : p name = true) :
    (assign name value vs).filter (fun v => p v.name) =
      assign name value (vs.filter fun v => p v.name) := by
  induction vs with
  | nil => simp [assign, h]
  | cons v rest ih =>
    by_cases hv : v.name = name
    · simp [assign, hv, h]
    · rw [assign, if_neg hv, List.filter_cons, List.filter_cons, ih]
      cases p v.name with
      | true => rw [if_pos rfl, if_pos rfl, assign, if_neg hv]
      | false => rfl

end Assign

/-! ## Environments -/

theorem eq_of_toList {env other : Environment} (h : env.toList = other.toList) : env = other := by
  cases env with
  | mk vs hvs =>
    cases other with
    | mk others hothers =>
      cases h
      rfl

section Changes

variable (env : Environment) {name : String} (value : String)

theorem toList_set_of_not_mem (h : name ∉ env.names) :
    (env.set name value).toList = env.toList ++ [⟨name, value⟩] :=
  assign_of_not_mem h

theorem names_set_of_mem (h : name ∈ env.names) : (env.set name value).names = env.names :=
  names_assign_of_mem h

theorem names_set_of_not_mem (h : name ∉ env.names) :
    (env.set name value).names = env.names ++ [name] := by
  rw [names, toList_set_of_not_mem env value h, List.map_append]
  rfl

theorem names_unset : (env.unset name).names = env.names.filter fun n => n ≠ name := by
  rw [names, names, unset, List.filter_map]
  rfl

theorem toList_unset : (env.unset name).toList = env.toList.filter fun v => v.name ≠ name :=
  rfl

theorem mem_names_unset_of_ne {other : String} (h : name ≠ other) :
    other ∈ (env.unset name).names ↔ other ∈ env.names := by
  rw [names_unset, List.mem_filter]
  simp [h.symm]

end Changes

end Environment

end FactorialCheck
