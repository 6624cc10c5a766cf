/-!
# Environments

An ordered list of variables with distinct names. They count for what the program
reads in them itself, the filter text and the configuration. What libraries read for
themselves is left out: `RUST_BACKTRACE`, which adds lines to an error, and
`CLICOLOR_FORCE`, which colours messages.
-/

namespace FactorialCheck

structure Variable where
  name : String
  value : String
  deriving DecidableEq, Repr

structure Environment where
  toList : List Variable
  distinct : (toList.map Variable.name).Nodup
  deriving DecidableEq, Repr

namespace Environment

/-- Replaces the value of a name where it stands, or appends the variable. -/
def assign (name value : String) : List Variable → List Variable
  | [] => [⟨name, value⟩]
  | v :: rest =>
    if v.name = name then ⟨name, value⟩ :: rest else v :: assign name value rest

theorem mem_assign_names {name value x : String} {vs : List Variable} :
    x ∈ (assign name value vs).map Variable.name ↔
      x = name ∨ x ∈ vs.map Variable.name := by
  induction vs with
  | nil => simp [assign]
  | cons v rest ih =>
    by_cases h : v.name = name
    · simp [assign, h]
    · simp only [assign, if_neg h, List.map_cons, List.mem_cons, ih]
      constructor
      · rintro (hx | hx | hx)
        · exact .inr (.inl hx)
        · exact .inl hx
        · exact .inr (.inr hx)
      · rintro (hx | hx | hx)
        · exact .inr (.inl hx)
        · exact .inl hx
        · exact .inr (.inr hx)

theorem nodup_assign {name value : String} {vs : List Variable}
    (h : (vs.map Variable.name).Nodup) :
    ((assign name value vs).map Variable.name).Nodup := by
  induction vs with
  | nil => simp [assign]
  | cons v rest ih =>
    simp only [List.map_cons, List.nodup_cons] at h
    by_cases hname : v.name = name
    · subst hname
      simpa [assign] using h
    · simp only [assign, if_neg hname, List.map_cons, List.nodup_cons, mem_assign_names]
      refine ⟨?_, ih h.2⟩
      rintro (hx | hx)
      · exact hname hx
      · exact h.1 hx

def empty : Environment :=
  ⟨[], by simp⟩

def set (env : Environment) (name value : String) : Environment :=
  ⟨assign name value env.toList, nodup_assign env.distinct⟩

def unset (env : Environment) (name : String) : Environment :=
  ⟨env.toList.filter fun v => v.name ≠ name,
    env.distinct.sublist (List.filter_sublist.map _)⟩

/-- Sets the variables in order. -/
def ofList (vs : List Variable) : Environment :=
  vs.foldl (fun env v => env.set v.name v.value) empty

/-- The value of exactly this name. -/
def get? (env : Environment) (name : String) : Option String :=
  (env.toList.find? fun v => v.name == name).map Variable.value

def contains (env : Environment) (name : String) : Bool :=
  env.toList.any fun v => v.name == name

theorem contains_iff {env : Environment} {name : String} :
    env.contains name = true ↔ name ∈ env.toList.map Variable.name := by
  simp only [contains, List.any_eq_true, beq_iff_eq, List.mem_map]

@[simp] theorem contains_set (env : Environment) (name value : String) :
    (env.set name value).contains name = true := by
  rw [contains_iff]
  exact mem_assign_names.mpr (.inl rfl)

end Environment

end FactorialCheck
