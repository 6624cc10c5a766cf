import FactorialCheck.Proofs.LetterCase
import FactorialCheck.Proofs.Results
import FactorialCheck.Strategy.Json

/-!
# The names of strategies

A strategy has a name where it is shown, one as an argument and one in JSON, each in a
table of its own. They are the same name, and nothing near it is a name in any of the
three places.
-/

namespace FactorialCheck.Strategy

/-! ## The three tables -/

section Names

variable {text : String} {strategy : Strategy}

/-- A table that lists the shown names finds them, and nothing else. -/
theorem find?_name_eq_some_iff {table : Strategy → String}
    (htable : ∀ strategy : Strategy, table strategy = strategy.name) :
    (all.find? fun strategy => table strategy == text) = some strategy ↔ text = strategy.name := by
  have hunique : ∀ a ∈ all, ∀ b ∈ all, (table a == text) = true → (table b == text) = true →
      a = b := by
    intro a _ b _ ha hb
    rw [beq_iff_eq, htable] at ha hb
    exact name_injective (ha.trans hb.symm)
  rw [find?_eq_some_iff_of_unique hunique (mem_all strategy), beq_iff_eq, htable, eq_comm]

theorem ofVariant_eq_ok_iff : ofVariant text = .ok strategy ↔ text = strategy.name := by
  rw [← find?_name_eq_some_iff variant_eq_name, ofVariant]
  cases all.find? fun strategy => strategy.variant == text with
  | some other => simp only [Except.ok.injEq, Option.some.injEq]
  | none => simp only [reduceCtorEq]

theorem ofArgument_eq_ok_iff :
    ofArgument text false = .ok strategy ↔ text = strategy.name := by
  rw [← find?_name_eq_some_iff argument_eq_name, ofArgument, if_neg Bool.false_ne_true, ofName?]
  cases all.find? fun strategy => strategy.argument == text with
  | some other => simp only [Except.ok.injEq, Option.some.injEq]
  | none => simp only [reduceCtorEq]

/-- No two names differ in case alone. -/
theorem eq_of_lower_name_eq {a b : Strategy}
    (h : Ascii.lower a.name = Ascii.lower b.name) : a = b := by
  have hlower : ∀ strategy : Strategy, Ascii.lower strategy.name = strategy.name := by
    intro strategy
    cases strategy <;> decide
  rw [hlower, hlower] at h
  exact name_injective h

theorem ofArgument_ignoringCase_eq_ok_iff :
    ofArgument text true = .ok strategy ↔ Ascii.SameUpToCase strategy.name text := by
  have hunique : ∀ a ∈ all, ∀ b ∈ all, Ascii.sameIgnoringCase a.argument text = true →
      Ascii.sameIgnoringCase b.argument text = true → a = b := by
    intro a _ b _ ha hb
    rw [Ascii.sameIgnoringCase, beq_iff_eq, argument_eq_name] at ha hb
    exact eq_of_lower_name_eq (ha.trans hb.symm)
  rw [← Ascii.sameIgnoringCase_iff, ← argument_eq_name,
    ← find?_eq_some_iff_of_unique hunique (mem_all strategy), ofArgument, if_pos rfl,
    ofNameIgnoringCase?]
  cases all.find? fun strategy => Ascii.sameIgnoringCase strategy.argument text with
  | some other => simp only [Except.ok.injEq, Option.some.injEq]
  | none => simp only [reduceCtorEq]

/-! ## Any JSON value -/

/-- Under a name stands null, and nothing else. -/
theorem ofJson_entry_eq_ok_iff {key : String} {content : Json} :
    ofJson (.object [(key, content)]) = .ok strategy ↔ key = strategy.name ∧ content = .null := by
  rw [ofJson, bind_eq_ok_iff]
  constructor
  · rintro ⟨named, hname, hcontent⟩
    cases content with
    | null =>
      cases hcontent
      exact ⟨ofVariant_eq_ok_iff.mp hname, rfl⟩
    | bool | integer | real | string | array | object => cases hcontent
  · rintro ⟨hname, rfl⟩
    exact ⟨strategy, ofVariant_eq_ok_iff.mpr hname, rfl⟩

theorem ofJson_object_eq_ok_iff {entries : List (String × Json)} :
    ofJson (.object entries) = .ok strategy ↔ entries = [(strategy.name, .null)] := by
  cases entries with
  | nil => exact ⟨nofun, nofun⟩
  | cons entry more =>
    cases more with
    | nil => rw [ofJson_entry_eq_ok_iff, List.cons.injEq, and_iff_left rfl, Prod.mk.injEq]
    | cons second rest => exact ⟨nofun, nofun⟩

theorem ofJson_eq_ok_iff {json : Json} :
    ofJson json = .ok strategy ↔
      json = .string strategy.name ∨ json = .object [(strategy.name, .null)] := by
  cases json with
  | string text =>
    rw [ofJson, ofVariant_eq_ok_iff, Json.string.injEq]
    simp only [reduceCtorEq, or_false]
  | object entries =>
    rw [ofJson_object_eq_ok_iff, Json.object.injEq]
    simp only [reduceCtorEq, false_or]
  | null | bool | integer | real | array => exact ⟨nofun, nofun⟩

end Names

/--
The spellings of a strategy coincide. A text is its name in JSON exactly if it is its
name as an argument, and exactly if it is the name it is shown by; where case does not
matter an argument may be that name with ASCII letters in any case, and nothing else.
Of all JSON values the strategy is written by two: the name, and the object with the
name as its only key and null under it.
-/
theorem spellings_coincide (strategy : Strategy) :
    (∀ text,
      (ofJson (.string text) = .ok strategy ↔ ofArgument text false = .ok strategy) ∧
      (ofArgument text false = .ok strategy ↔ text = strategy.name) ∧
      (ofArgument text true = .ok strategy ↔ Ascii.SameUpToCase strategy.name text)) ∧
    (∀ json, ofJson json = .ok strategy ↔
      json = .string strategy.name ∨ json = .object [(strategy.name, .null)]) := by
  refine ⟨fun text => ⟨?_, ofArgument_eq_ok_iff, ofArgument_ignoringCase_eq_ok_iff⟩,
    fun json => ofJson_eq_ok_iff⟩
  have hjson : ofJson (.string text) = .ok strategy ↔ text = strategy.name := ofVariant_eq_ok_iff
  rw [hjson, ofArgument_eq_ok_iff]

end FactorialCheck.Strategy
