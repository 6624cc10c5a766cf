import FactorialCheck.Program
import FactorialCheck.Proofs.Cuttings
import FactorialCheck.Proofs.Environments
import Mathlib.Data.List.Basic

/-!
# Filters

Whether a filter text is accepted depends on its directives alone, and so does what is
wrong with it. The verbosity counts only where there are none.
-/

namespace FactorialCheck

namespace Log.Filter

/-- A text of which every directive can be read. -/
def Valid (text : String) : Prop :=
  ∀ directive ∈ directives text, (Directive.ofText directive).isOk = true

instance (text : String) : Decidable (Valid text) :=
  inferInstanceAs (Decidable (∀ directive ∈ directives text, _ = true))

/-- A text of which the first directive that cannot be read aborts the reading. -/
def Aborts (text : String) : Prop :=
  ∃ directive ∈ (directives text).find? fun directive => !(Directive.ofText directive).isOk,
    Directive.ofText directive = .error .aborted

instance (text : String) : Decidable (Aborts text) :=
  inferInstanceAs (Decidable (∃ directive ∈ List.find? _ (directives text), _ = _))

variable {text : String}

theorem isOk_ofText_iff (fallback : Threshold) :
    (ofText fallback text).isOk = true ↔ Valid text := by
  rw [ofText, Valid]
  cases directives text with
  | nil => simp [Except.isOk, Except.toBool]
  | cons directive rest =>
    rw [← List.all_eq_true, ← isOk_mapM]
    simp only [isOk_map]

theorem ofText_of_directives (h : directives text ≠ []) (first second : Threshold) :
    ofText first text = ofText second text := by
  rw [ofText, ofText]
  cases hdirectives : directives text with
  | nil => exact absurd hdirectives h
  | cons directive rest => rfl

theorem ofText_eq_error_iff {fallback : Threshold} {halt : Halt} :
    ofText fallback text = .error halt ↔
      ∃ directive ∈ (directives text).find? fun directive => !(Directive.ofText directive).isOk,
        Directive.ofText directive = .error halt := by
  rw [ofText]
  cases directives text with
  | nil =>
    constructor
    · intro h
      cases h
    · rintro ⟨directive, hfind, -⟩
      cases hfind
  | cons directive rest => exact map_eq_error_iff.trans mapM_eq_error_iff

theorem ofText_eq_aborted_iff {fallback : Threshold} :
    ofText fallback text = .error .aborted ↔ Aborts text :=
  ofText_eq_error_iff

/-- What is wrong with a text does not depend on the verbosity. -/
theorem exists_ofText_halt (h : ¬ Valid text) :
    ∃ halt, ∀ fallback, ofText fallback text = .error halt := by
  -- Any verbosity will do: what halts the reading is one of the directives.
  cases hread : ofText .off text with
  | ok filter => exact absurd ((isOk_ofText_iff .off).mp (isOk_iff.mpr ⟨filter, hread⟩)) h
  | error halt =>
    exact ⟨halt, fun fallback => ofText_eq_error_iff.mpr (ofText_eq_error_iff.mp hread)⟩

theorem exists_ofText_error (h : ¬ Valid text) (haborts : ¬ Aborts text) :
    ∃ error, ∀ fallback, ofText fallback text = .error (.refused error) := by
  obtain ⟨halt, hread⟩ := exists_ofText_halt h
  cases halt with
  | refused error => exact ⟨error, hread⟩
  | aborted => exact absurd (ofText_eq_aborted_iff.mp (hread .off)) haborts

/-- Only a directive with blanks before it can abort the reading. -/
theorem exists_blank_of_aborts (h : Aborts text) :
    ∃ directive ∈ directives text, ∃ c ∈ directive.head?,
      CharacterClass.whiteSpace.holds c = true := by
  obtain ⟨directive, hfind, haborted⟩ := h
  refine ⟨directive, List.mem_of_find?_eq_some hfind, ?_⟩
  by_contra hnone
  refine Directive.ofText_ne_aborted (fun c hc => ?_) haborted
  exact Bool.eq_false_iff.mpr fun hblank => hnone ⟨c, hc, hblank⟩

/-- A blank before a letter of two bytes moves the cut before the equals sign into it. -/
example : ofText .off " é=info" = .error .aborted := by
  decide +kernel

end Log.Filter

namespace Program

/-- An environment without a filter text, or with one of which all can be read. -/
def ValidFilter (env : Environment) : Prop :=
  ∀ text, env.get? "RUST_LOG" = some text → Log.Filter.Valid text

instance (env : Environment) : Decidable (ValidFilter env) :=
  inferInstanceAs (Decidable (∀ text ∈ env.get? "RUST_LOG", Log.Filter.Valid text))

section Filter

variable {env : Environment} {text : String} {read : Log.Reader}

theorem filterText_of_get? (h : env.get? "RUST_LOG" = some text) : filterText env = text := by
  have hget : env.get? filterVariable = some text := h
  rw [filterText, hget, Option.getD_some]

theorem filterOf_of_get? (h : env.get? "RUST_LOG" = some text) (verbose : Nat) :
    filterOf verbose env = Log.Filter.ofText (.ofVerbosity verbose) text := by
  rw [filterOf, filterText_of_get? h]

/-- Without a text the verbosity is the only rule. -/
theorem filterOf_of_none (h : env.get? "RUST_LOG" = none) (verbose : Nat) :
    filterOf verbose env = .ok (.uniform (.ofVerbosity verbose)) := by
  have hnone : env.get? filterVariable = none := h
  rw [filterOf, filterText, hnone]
  rfl

theorem exists_filterOf (h : ValidFilter env) (verbose : Nat) :
    ∃ filter, filterOf verbose env = .ok filter := by
  cases hget : env.get? "RUST_LOG" with
  | none => exact ⟨_, filterOf_of_none hget verbose⟩
  | some text =>
    rw [filterOf_of_get? hget]
    exact isOk_iff.mp ((Log.Filter.isOk_ofText_iff _).mpr (h text hget))

/-- With a directive the verbosity is of no account. -/
theorem filterOf_of_directives (h : env.get? "RUST_LOG" = some text)
    (hdirectives : Log.Filter.directives text ≠ []) (first second : Nat) :
    filterOf first env = filterOf second env := by
  rw [filterOf_of_get? h, filterOf_of_get? h]
  exact Log.Filter.ofText_of_directives hdirectives ..

end Filter

end Program

end FactorialCheck
