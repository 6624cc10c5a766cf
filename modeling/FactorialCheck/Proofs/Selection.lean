import FactorialCheck.Log.Filter
import FactorialCheck.Proofs.Directives
import Mathlib.Data.List.Nodup

/-!
# The clause that decides

Of the rules that apply to an event the filter takes one with the longest target,
wherever in the list it stands. Where clauses have distinct targets, at most one of them
decides on an event, and their order is of no account.
-/

namespace FactorialCheck.Log

/-! ## Rules -/

namespace Rule

/-- Fields count only between targets of one length. -/
theorem length_le_of_outranks {a b : Rule} (h : a.outranks b = true) :
    b.target.length ≤ a.target.length := by
  by_cases hlength : a.target.length = b.target.length
  · exact Nat.le_of_eq hlength.symm
  · rw [outranks, if_neg hlength, decide_eq_true_eq] at h
    exact Nat.le_of_lt h

theorem length_le_of_not_outranks {a b : Rule} (h : ¬ a.outranks b = true) :
    a.target.length ≤ b.target.length := by
  by_cases hlength : a.target.length = b.target.length
  · exact Nat.le_of_eq hlength
  · rw [outranks, if_neg hlength, decide_eq_true_eq] at h
    exact Nat.le_of_not_lt h

end Rule

namespace Filter

/-- One of the rules, than which none has a longer target. -/
structure Longest (rules : List Rule) (rule : Rule) : Prop where
  mem : rule ∈ rules
  length_le : ∀ other ∈ rules, other.target.length ≤ rule.target.length

/-- Of two rules a longest one is kept. -/
theorem exists_prefer (earlier rule : Rule) :
    ∃ kept, prefer (some earlier) rule = some kept ∧ Longest [earlier, rule] kept := by
  by_cases h : earlier.outranks rule = true
  · refine ⟨earlier, if_pos h, List.mem_cons_self, ?_⟩
    simpa using Rule.length_le_of_outranks h
  · refine ⟨rule, if_neg h, by simp, ?_⟩
    simpa using Rule.length_le_of_not_outranks h

/-- The rule kept so far is a longest one of those that were seen. -/
theorem exists_foldl_prefer (earlier : Rule) (rules : List Rule) :
    ∃ found, rules.foldl prefer (some earlier) = some found ∧ Longest (earlier :: rules) found := by
  induction rules generalizing earlier with
  | nil => exact ⟨earlier, rfl, by simp, by simp⟩
  | cons rule rest ih =>
    obtain ⟨kept, hkept, hlongest⟩ := exists_prefer earlier rule
    obtain ⟨found, hfound, hall⟩ := ih kept
    refine ⟨found, by rw [List.foldl_cons, hkept, hfound], ?_, ?_⟩
    · rcases List.mem_cons.mp hall.mem with rfl | hmem
      · exact List.mem_append_left rest hlongest.mem
      · exact List.mem_append_right [earlier, rule] hmem
    · intro other hother
      rcases List.mem_append.mp (show other ∈ [earlier, rule] ++ rest from hother) with hseen | hmem
      · exact Nat.le_trans (hlongest.length_le other hseen)
          (hall.length_le kept List.mem_cons_self)
      · exact hall.length_le other (List.mem_cons_of_mem _ hmem)

/-- An event is decided on by a longest one of the rules that apply to it, or by none. -/
theorem decisive?_cases (filter : Filter) (event : Event) :
    (∃ rule, filter.decisive? event = some rule ∧
      Longest (filter.rules.filter fun rule => rule.appliesTo event) rule) ∨
    (filter.decisive? event = none ∧
      ∀ rule ∈ filter.rules, rule.appliesTo event = false) := by
  cases happly : filter.rules.filter fun rule => rule.appliesTo event with
  | nil =>
    refine .inr ⟨by rw [decisive?, happly, List.foldl_nil], ?_⟩
    intro rule hrule
    simpa using List.filter_eq_nil_iff.mp happly rule hrule
  | cons rule rest =>
    obtain ⟨found, hfound, hlongest⟩ := exists_foldl_prefer rule rest
    exact .inl ⟨found, by rw [decisive?, happly]; exact hfound, hlongest⟩

end Filter

/-! ## Clauses and events -/

/-- A clause applies to the events whose target begins with its own. -/
def Clause.AppliesTo (clause : Clause) (event : Event) : Prop :=
  clause.target.toList <+: event.target.toList

instance (clause : Clause) (event : Event) : Decidable (clause.AppliesTo event) :=
  inferInstanceAs (Decidable (_ <+: _))

/-- A clause that applies to an event, and than which none that does has a longer target. -/
structure Decides (clauses : List Clause) (event : Event) (clause : Clause) : Prop where
  mem : clause ∈ clauses
  appliesTo : clause.AppliesTo event
  length_le : ∀ other ∈ clauses, other.AppliesTo event →
    other.target.length ≤ clause.target.length

/-- The clause that decides on an event admits its level. Where none applies, none decides. -/
def Logged (clauses : List Clause) (event : Event) : Prop :=
  ∃ clause, Decides clauses event clause ∧ clause.threshold.admits event.level = true

instance (clauses : List Clause) (event : Event) : Decidable (Logged clauses event) :=
  decidable_of_iff
    (∃ clause ∈ clauses, clause.AppliesTo event ∧
      (∀ other ∈ clauses, other.AppliesTo event →
        other.target.length ≤ clause.target.length) ∧
      clause.threshold.admits event.level = true)
    ⟨fun ⟨clause, hmem, happly, hlength, hadmits⟩ => ⟨clause, ⟨hmem, happly, hlength⟩, hadmits⟩,
      fun ⟨clause, h, hadmits⟩ => ⟨clause, h.mem, h.appliesTo, h.length_le, hadmits⟩⟩

section Decides

variable {clauses : List Clause} {event : Event}

theorem Decides.perm {other : List Clause} {clause : Clause} (h : Decides clauses event clause)
    (hperm : clauses.Perm other) : Decides other event clause where
  mem := hperm.mem_iff.mp h.mem
  appliesTo := h.appliesTo
  length_le b hb := h.length_le b (hperm.mem_iff.mpr hb)

theorem logged_perm {other : List Clause} (hperm : clauses.Perm other) :
    Logged clauses event ↔ Logged other event :=
  ⟨fun ⟨clause, h, hadmits⟩ => ⟨clause, h.perm hperm, hadmits⟩,
    fun ⟨clause, h, hadmits⟩ => ⟨clause, h.perm hperm.symm, hadmits⟩⟩

/-- A clause that does not apply to an event has no say in it. -/
theorem decides_cons_iff {extra clause : Clause} (hextra : ¬ extra.AppliesTo event) :
    Decides (extra :: clauses) event clause ↔ Decides clauses event clause := by
  constructor
  · intro h
    rcases List.mem_cons.mp h.mem with rfl | hmem
    · exact absurd h.appliesTo hextra
    · exact ⟨hmem, h.appliesTo, fun other hother =>
        h.length_le other (List.mem_cons_of_mem extra hother)⟩
  · intro h
    refine ⟨List.mem_cons_of_mem extra h.mem, h.appliesTo, ?_⟩
    rw [List.forall_mem_cons]
    exact ⟨fun happly => absurd happly hextra, h.length_le⟩

theorem logged_cons_iff {extra : Clause} (hextra : ¬ extra.AppliesTo event) :
    Logged (extra :: clauses) event ↔ Logged clauses event := by
  simp only [Logged, decides_cons_iff hextra]

/-- Every event comes from one of two parts of the program. -/
theorem Clause.not_appliesTo_of_targets {clause : Clause}
    (hdriver : ¬ clause.target.toList <+: "fact_core::driver".toList)
    (hfactorial : ¬ clause.target.toList <+: "fact_core::factorial".toList) (event : Event) :
    ¬ clause.AppliesTo event := by
  cases event with
  | computed strategy n value => exact hdriver
  | finished report => exact hdriver
  | evaluated strategy n value => exact hfactorial

/-! ## Distinct targets -/

/-- No two clauses have one target. That of a level is empty, so there is at most one level. -/
def DistinctTargets (clauses : List Clause) : Prop :=
  (clauses.map Clause.target).Nodup

instance (clauses : List Clause) : Decidable (DistinctTargets clauses) :=
  inferInstanceAs (Decidable (List.Nodup _))

/-- No two clauses that apply to an event have one target. -/
def UniqueFor (event : Event) (clauses : List Clause) : Prop :=
  ∀ a ∈ clauses, ∀ b ∈ clauses, a.AppliesTo event → a.target = b.target → a = b

theorem DistinctTargets.uniqueFor (h : DistinctTargets clauses) (event : Event) :
    UniqueFor event clauses :=
  fun _ ha _ hb _ htarget => List.inj_on_of_nodup_map h ha hb htarget

theorem UniqueFor.perm {other : List Clause} (h : UniqueFor event clauses)
    (hperm : clauses.Perm other) : UniqueFor event other :=
  fun a ha b hb => h a (hperm.mem_iff.mpr ha) b (hperm.mem_iff.mpr hb)

theorem UniqueFor.cons {extra : Clause} (h : UniqueFor event clauses)
    (hextra : ¬ extra.AppliesTo event) : UniqueFor event (extra :: clauses) := by
  intro a ha b hb happly htarget
  have happly' : b.AppliesTo event := by rwa [Clause.AppliesTo, ← htarget]
  rcases List.mem_cons.mp ha with rfl | ha
  · exact absurd happly hextra
  · rcases List.mem_cons.mp hb with rfl | hb
    · exact absurd happly' hextra
    · exact h a ha b hb happly htarget

/-- Beginnings of one text that have one length are the same, so no two clauses decide. -/
theorem Decides.eq_of_decides {a b : Clause} (hunique : UniqueFor event clauses)
    (ha : Decides clauses event a) (hb : Decides clauses event b) : a = b := by
  have hlength : a.target.length = b.target.length :=
    Nat.le_antisymm (hb.length_le a ha.mem ha.appliesTo) (ha.length_le b hb.mem hb.appliesTo)
  have hbegins : a.target.toList <+: b.target.toList :=
    List.prefix_of_prefix_length_le ha.appliesTo hb.appliesTo (Nat.le_of_eq hlength)
  exact hunique a ha.mem b hb.mem ha.appliesTo
    (String.toList_inj.mp (hbegins.eq_of_length hlength))

/-! ## The filter of clauses -/

/-- The rule that a clause sets. -/
def Clause.rule (clause : Clause) : Rule :=
  ⟨clause.target, none, clause.threshold⟩

theorem Clause.appliesTo_rule_iff {clause : Clause} :
    clause.rule.appliesTo event = true ↔ clause.AppliesTo event := by
  have hrule : clause.rule.appliesTo event =
      clause.target.toList.isPrefixOf event.target.toList := Bool.and_true _
  rw [hrule, List.isPrefixOf_iff_prefix, AppliesTo]

/-- The rule that decides is that of a clause that does. -/
theorem Filter.decisive?_rules_cases (clauses : List Clause) (event : Event) :
    (∃ clause, Filter.decisive? ⟨clauses.map Clause.rule⟩ event = some clause.rule ∧
      Decides clauses event clause) ∨
    (Filter.decisive? ⟨clauses.map Clause.rule⟩ event = none ∧
      ∀ clause ∈ clauses, ¬ clause.AppliesTo event) := by
  rcases decisive?_cases ⟨clauses.map Clause.rule⟩ event with
    ⟨rule, hrule, hlongest⟩ | ⟨hnone, hnever⟩
  · obtain ⟨hmem, happlies⟩ := List.mem_filter.mp hlongest.mem
    obtain ⟨clause, hclause, rfl⟩ := List.mem_map.mp hmem
    refine .inl ⟨clause, hrule, hclause, Clause.appliesTo_rule_iff.mp happlies, ?_⟩
    intro other hother happly
    exact hlongest.length_le other.rule
      (List.mem_filter.mpr ⟨List.mem_map_of_mem hother, Clause.appliesTo_rule_iff.mpr happly⟩)
  · refine .inr ⟨hnone, ?_⟩
    intro clause hclause happly
    rw [← Clause.appliesTo_rule_iff, hnever _ (List.mem_map_of_mem hclause)] at happly
    cases happly

theorem Filter.admits_iff_logged (hunique : UniqueFor event clauses) :
    Filter.admits ⟨clauses.map Clause.rule⟩ event = true ↔ Logged clauses event := by
  rcases decisive?_rules_cases clauses event with ⟨clause, hrule, hdecides⟩ | ⟨hnone, hnever⟩
  · rw [admits, hrule]
    constructor
    · exact fun hadmits => ⟨clause, hdecides, hadmits⟩
    · rintro ⟨other, hother, hadmits⟩
      rw [hdecides.eq_of_decides hunique hother]
      exact hadmits
  · rw [admits, hnone]
    constructor
    · intro h
      cases h
    · rintro ⟨clause, hdecides, -⟩
      exact absurd hdecides.appliesTo (hnever clause hdecides.mem)

end Decides

end FactorialCheck.Log
