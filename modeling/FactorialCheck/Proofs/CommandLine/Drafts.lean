import FactorialCheck.Proofs.CommandLine.Moves

/-!
# Settling a draft

What stands unread in a draft is read once, with the same result sooner or later.
A word that is no flag stands unread in its turn.
-/

namespace FactorialCheck.CommandLine

open Numeral (Denotes)

theorem readNumber_eq_ok_iff {operand : Operand} {text : String} {n : Int64} :
    readNumber operand text = .ok n ↔ Denotes text n := by
  rw [← Numeral.read_eq_ok_iff, readNumber]
  cases Numeral.read text with
  | ok m => exact Iff.of_eq (by rw [Except.ok.injEq, Except.ok.injEq])
  | error fault => simp [stop]

theorem ofName?_eq_some_iff {text : String} {strategy : Strategy} :
    Strategy.ofName? text = some strategy ↔ text = strategy.name := by
  constructor
  · intro h
    have hname := List.find?_some h
    rw [beq_iff_eq, Strategy.argument_eq_name] at hname
    exact hname.symm
  · rintro rfl
    cases strategy <;> rfl

theorem readStrategy_eq_ok_iff {text : String} {strategy : Strategy} :
    readStrategy text = .ok strategy ↔ text = strategy.name := by
  rw [← ofName?_eq_some_iff, readStrategy]
  cases Strategy.ofName? text with
  | some other => simp
  | none => by_cases hempty : text = "" <;> simp [hempty, stop]

namespace Draft

theorem assignInput_eq_ok_iff {input : Option Int64} {json : Bool} {text : String}
    {draft : Draft} :
    assignInput input json text = .ok draft ↔
      input = none ∧ ∃ n, Denotes text n ∧ .check (some n) json .none = draft := by
  cases input with
  | some n => simp [assignInput, stop]
  | none =>
    simp only [assignInput, bind_eq_ok_iff, readNumber_eq_ok_iff, Except.ok.injEq, true_and]

/-- How a draft is settled, if it can be. -/
inductive Settles : Draft → Draft → Prop where
  | check (input : Option Int64) (json : Bool) :
      Settles (.check input json .none) (.check input json .none)
  | input {text : String} {n : Int64} (json : Bool) : Denotes text n →
      Settles (.check none json (.given text)) (.check (some n) json .none)
  | start : Settles (.eval .start) (.eval .start)
  | strategyGiven (strategy : Strategy) :
      Settles (.eval (.strategyGiven strategy.name)) (.eval (.strategyRead strategy))
  | strategyRead (strategy : Strategy) :
      Settles (.eval (.strategyRead strategy)) (.eval (.strategyRead strategy))
  | numberGiven {text : String} {n : Int64} (strategy : Strategy) : Denotes text n →
      Settles (.eval (.numberGiven strategy text)) (.eval (.numberRead strategy n))
  | numberRead (strategy : Strategy) (n : Int64) :
      Settles (.eval (.numberRead strategy n)) (.eval (.numberRead strategy n))
  | nothing : Settles .nothing .nothing

theorem settles_of_settle {draft settled : Draft} (h : draft.settle = .ok settled) :
    Settles draft settled := by
  cases draft with
  | check input json pending =>
    cases pending with
    | none =>
      cases h
      exact .check input json
    | awaited => cases h
    | given text =>
      obtain ⟨rfl, n, hdenotes, rfl⟩ := assignInput_eq_ok_iff.mp h
      exact .input json hdenotes
  | eval operands =>
    cases operands with
    | start =>
      cases h
      exact .start
    | strategyGiven text =>
      obtain ⟨strategy, hread, heq⟩ := bind_eq_ok_iff.mp h
      cases heq
      rw [readStrategy_eq_ok_iff.mp hread]
      exact .strategyGiven strategy
    | strategyRead strategy =>
      cases h
      exact .strategyRead strategy
    | numberGiven strategy text =>
      obtain ⟨n, hread, heq⟩ := bind_eq_ok_iff.mp h
      cases heq
      exact .numberGiven strategy (readNumber_eq_ok_iff.mp hread)
    | numberRead strategy n =>
      cases h
      exact .numberRead strategy n
  | nothing =>
    cases h
    exact .nothing

theorem Settles.settle_eq {draft settled : Draft} (h : Settles draft settled) :
    draft.settle = .ok settled := by
  cases h with
  | check input json => rfl
  | input json hdenotes => exact assignInput_eq_ok_iff.mpr ⟨rfl, _, hdenotes, rfl⟩
  | start => rfl
  | strategyGiven strategy =>
    exact bind_eq_ok_iff.mpr ⟨strategy, readStrategy_eq_ok_iff.mpr rfl, rfl⟩
  | strategyRead strategy => rfl
  | numberGiven strategy hdenotes =>
    exact bind_eq_ok_iff.mpr ⟨_, readNumber_eq_ok_iff.mpr hdenotes, rfl⟩
  | numberRead strategy n => rfl
  | nothing => rfl

theorem Settles.settled {draft settled : Draft} (h : Settles draft settled) :
    Settles settled settled := by
  cases h with
  | check input json => exact .check input json
  | input json hdenotes => exact .check _ json
  | start => exact .start
  | strategyGiven strategy => exact .strategyRead strategy
  | strategyRead strategy => exact .strategyRead strategy
  | numberGiven strategy hdenotes => exact .numberRead strategy _
  | numberRead strategy n => exact .numberRead strategy n
  | nothing => exact .nothing

theorem Settles.unique {draft a b : Draft} (ha : Settles draft a) (hb : Settles draft b) :
    a = b :=
  Except.ok.inj (ha.settle_eq.symm.trans hb.settle_eq)

/-- The same flags are known before and after. -/
theorem Settles.flags_eq {draft settled : Draft} (h : Settles draft settled) :
    settled.flags = draft.flags := by
  cases h <;> rfl

theorem Settles.expectsNumber_eq {draft settled : Draft} (h : Settles draft settled) :
    settled.expectsNumber = draft.expectsNumber := by
  cases h <;> rfl

/-- A word that is no flag is taken alike before and after. -/
theorem Settles.place_eq {draft settled : Draft} (h : Settles draft settled) (terminated : Bool)
    (word : String) : settled.place terminated word = draft.place terminated word := by
  cases h with
  | strategyGiven strategy =>
    rw [place, place, readStrategy_eq_ok_iff.mpr rfl]
    rfl
  | _ => rfl

/-- How a word that is no flag is taken, if it is. -/
inductive Places : Bool → Draft → String → Draft → Prop where
  | input (input : Option Int64) (json : Bool) (word : String) :
      Places false (.check input json .awaited) word (.check input json (.given word))
  | strategy (terminated : Bool) (word : String) :
      Places terminated (.eval .start) word (.eval (.strategyGiven word))
  | numberAfterText (terminated : Bool) (strategy : Strategy) (word : String) :
      Places terminated (.eval (.strategyGiven strategy.name)) word
        (.eval (.numberGiven strategy word))
  | number (terminated : Bool) (strategy : Strategy) (word : String) :
      Places terminated (.eval (.strategyRead strategy)) word (.eval (.numberGiven strategy word))

theorem places_of_place {terminated : Bool} {draft placed : Draft} {word : String}
    (h : draft.place terminated word = .ok placed) : Places terminated draft word placed := by
  cases draft with
  | check input json pending =>
    cases pending with
    | awaited =>
      cases terminated with
      | false =>
        cases h
        exact .input input json word
      | true => cases h
    | none => cases h
    | given text => cases h
  | eval operands =>
    cases operands with
    | start =>
      cases h
      exact .strategy terminated word
    | strategyGiven text =>
      obtain ⟨strategy, hread, heq⟩ := bind_eq_ok_iff.mp h
      cases heq
      rw [readStrategy_eq_ok_iff.mp hread]
      exact .numberAfterText terminated strategy word
    | strategyRead strategy =>
      cases h
      exact .number terminated strategy word
    | numberGiven strategy text => cases h
    | numberRead strategy n => cases h
  | nothing => cases h

theorem Places.flags_eq {terminated : Bool} {draft placed : Draft} {word : String}
    (h : Places terminated draft word placed) : placed.flags = draft.flags := by
  cases h <;> rfl

/-- No word makes a draft await a value: only a flag does. -/
theorem Places.ne_awaited {terminated : Bool} {draft placed : Draft} {word : String}
    (h : Places terminated draft word placed) (input : Option Int64) (json : Bool) :
    placed ≠ .check input json .awaited := by
  rintro rfl
  cases h

/-- A draft that takes a word could have been settled, unless it awaits a value. -/
theorem Places.settles {terminated : Bool} {draft placed : Draft} {word : String}
    (h : Places terminated draft word placed)
    (hawaits : ∀ input json, draft ≠ .check input json .awaited) :
    ∃ settled, Settles draft settled := by
  cases h with
  | input input json => exact absurd rfl (hawaits input json)
  | strategy => exact ⟨_, .start⟩
  | numberAfterText _ strategy => exact ⟨_, .strategyGiven strategy⟩
  | number _ strategy => exact ⟨_, .strategyRead strategy⟩

end Draft

end FactorialCheck.CommandLine
