import FactorialCheck.Proofs.CommandLine.Readings

/-!
# Operands

Operands complete a command, before the terminator or behind it.
-/

namespace FactorialCheck.CommandLine

open Numeral (Denotes)
open Draft (Settles)

variable {outer inner : Nat} {draft settled : Draft} {word : String}
  {words rest : List String} {invocation : Invocation}

/-- The operands that are missing from a settled draft, and the command they make it. -/
inductive Completes : Draft → List String → Command → Prop where
  | check (input : Option Int64) (json : Bool) :
      Completes (.check input json .none) [] (.check input json)
  | start {number : String} {n : Int64} (strategy : Strategy) : Denotes number n →
      Completes (.eval .start) [strategy.name, number] (.eval strategy n)
  | strategyRead {number : String} {n : Int64} (strategy : Strategy) : Denotes number n →
      Completes (.eval (.strategyRead strategy)) [number] (.eval strategy n)
  | numberRead (strategy : Strategy) (n : Int64) :
      Completes (.eval (.numberRead strategy n)) [] (.eval strategy n)
  | nothing : Completes .nothing [] .nothing

theorem complete_iff {command : Command} (h : Settles draft draft) :
    draft.complete = .ok command ↔ Completes draft [] command := by
  constructor
  · intro hcomplete
    cases h with
    | check input json =>
      cases hcomplete
      exact .check input json
    | start => cases hcomplete
    | strategyRead strategy => cases hcomplete
    | numberRead strategy n =>
      cases hcomplete
      exact .numberRead strategy n
    | nothing =>
      cases hcomplete
      exact .nothing
  · intro hcompletes
    cases hcompletes <;> rfl

/-- One operand is placed, and settled once its draft is. -/
theorem completes_cons_iff {command : Command} {terminated : Bool} (h : Settles draft draft) :
    Completes draft (word :: rest) command ↔
      ∃ placed, draft.place terminated word = .ok placed ∧
        ∃ settled, Settles placed settled ∧ Completes settled rest command := by
  constructor
  · intro hcompletes
    cases hcompletes with
    | start strategy hdenotes =>
      exact ⟨_, rfl, _, .strategyGiven strategy, .strategyRead strategy hdenotes⟩
    | strategyRead strategy hdenotes =>
      exact ⟨_, rfl, _, .numberGiven strategy hdenotes, .numberRead strategy _⟩
  · rintro ⟨placed, hplace, settled, hsettles, hcompletes⟩
    cases h with
    | check input json => cases hplace
    | start =>
      cases hplace
      cases hsettles with
      | strategyGiven strategy =>
        cases hcompletes with
        | strategyRead strategy hdenotes => exact .start strategy hdenotes
    | strategyRead strategy =>
      cases hplace
      cases hsettles with
      | numberGiven strategy hdenotes =>
        cases hcompletes with
        | numberRead strategy n => exact .strategyRead strategy hdenotes
    | numberRead strategy n => cases hplace
    | nothing => cases hplace

/-- Behind the terminator all words are operands. -/
theorem terminated_iff (h : Settles draft draft) :
    readFrom (reading outer inner draft true) words = .ok invocation ↔
      ∃ command, Completes draft words command ∧
        ⟨verbosity outer inner, some command⟩ = invocation := by
  induction words generalizing draft with
  | nil =>
    rw [reading_nil_iff h]
    simp only [complete_iff h]
  | cons word rest ih =>
    rw [terminated_cons_iff]
    constructor
    · rintro ⟨placed, hplace, hrest⟩
      have hplaces := Draft.places_of_place hplace
      obtain ⟨settled, hsettles, hread⟩ := (reading_eq_ok_iff hplaces.ne_awaited).mp hrest
      obtain ⟨command, hcompletes, rfl⟩ := (ih hsettles.settled).mp hread
      exact ⟨command, (completes_cons_iff h).mpr ⟨placed, hplace, settled, hsettles, hcompletes⟩,
        rfl⟩
    · rintro ⟨command, hcompletes, rfl⟩
      obtain ⟨placed, hplace, settled, hsettles, hcompletes⟩ := (completes_cons_iff h).mp hcompletes
      refine ⟨placed, hplace, (reading_settled hsettles).trans ?_⟩
      exact (ih hsettles.settled).mpr ⟨command, hcompletes, rfl⟩

theorem reading_ending_iff {ending after : List String} (hending : Ending ending after)
    (h : Settles draft draft) :
    readFrom (reading outer inner draft false) ending = .ok invocation ↔
      ∃ command, Completes draft after command ∧
        ⟨verbosity outer inner, some command⟩ = invocation := by
  cases hending with
  | plain =>
    rw [reading_nil_iff h]
    simp only [complete_iff h]
  | terminated => exact terminated_iff h

theorem reading_move {q : Progress} (h : Move (min 255 outer) inner draft word q) :
    readFrom (reading outer inner draft false) (word :: rest) = readFrom (.inside q) rest := by
  rw [reading, readFrom_inside_cons, h.next_eq]
  rfl

/-! ## Operands among requests for verbosity -/

theorem Draft.Settles.not_check (hflags : draft.flags = [.verbose, .help])
    {input : Option Int64} {json : Bool} {pending : PendingInput} :
    ¬ Settles draft (.check input json pending) := by
  intro h
  rw [h.check_flags] at hflags
  cases hflags

theorem operands_sound (hflags : draft.flags = [.verbose, .help]) (hsettles : Settles draft draft)
    (h : readFrom (reading outer inner draft false) words = .ok invocation) :
    ∃ arguments ending before after more command, words = arguments ++ ending ∧
      EvalArguments arguments more before ∧ Ending ending after ∧
      Completes draft (before ++ after) command ∧
      ⟨verbosity outer (inner + more), some command⟩ = invocation := by
  induction words generalizing inner draft with
  | nil =>
    obtain ⟨command, hcompletes, hinvocation⟩ := (reading_ending_iff .plain hsettles).mp h
    exact ⟨[], [], [], [], 0, command, rfl, .nil, .plain, hcompletes, hinvocation⟩
  | cons word rest ih =>
    obtain ⟨q, hmove, hrest⟩ := reading_cons_iff.mp h
    cases hmove with
    | terminator =>
      obtain ⟨command, hcompletes, hinvocation⟩ := (terminated_iff hsettles).mp hrest
      exact ⟨[], _, [], rest, 0, command, rfl, .nil, .terminated rest, hcompletes, hinvocation⟩
    | @verbose _ count settled hword hsettled =>
      rw [← hsettles.unique hsettled] at hrest
      obtain ⟨arguments, ending, before, after, more, command, rfl, harguments, hending,
        hcompletes, rfl⟩ := ih hflags hsettles hrest
      refine ⟨_, ending, before, after, count + more, command, rfl, .verbose hword harguments,
        hending, hcompletes, ?_⟩
      rw [Nat.add_assoc]
    | json hcheck => exact absurd hcheck (Draft.Settles.not_check hflags)
    | awaitInput hcheck => exact absurd hcheck (Draft.Settles.not_check hflags)
    | joinedInput hdenotes hcheck => exact absurd hcheck (Draft.Settles.not_check hflags)
    | place hword hplace =>
      have hplaces := Draft.places_of_place hplace
      obtain ⟨settled, hsettled, hread⟩ := (reading_eq_ok_iff hplaces.ne_awaited).mp hrest
      have hsettledFlags := (hsettled.flags_eq.trans hplaces.flags_eq).trans hflags
      obtain ⟨arguments, ending, before, after, more, command, rfl, harguments, hending,
        hcompletes, rfl⟩ := ih hsettledFlags hsettled.settled hread
      refine ⟨_, ending, word :: before, after, more, command, rfl, .operand harguments, hending,
        ?_, rfl⟩
      exact (completes_cons_iff hsettles).mpr ⟨_, hplace, settled, hsettled, hcompletes⟩

theorem Completes.operandWord {command : Command} (h : Completes draft (word :: rest) command) :
    OperandWord draft word := by
  cases h with
  | start strategy hdenotes => exact operandWord_strategy _ strategy
  | strategyRead strategy hdenotes => exact operandWord_denotes rfl hdenotes

theorem operands_complete {arguments ending before after : List String} {more : Nat}
    {command : Command} (harguments : EvalArguments arguments more before)
    (hending : Ending ending after) (hsettles : Settles draft draft)
    (hcompletes : Completes draft (before ++ after) command) :
    readFrom (reading outer inner draft false) (arguments ++ ending) =
      .ok ⟨verbosity outer (inner + more), some command⟩ := by
  induction harguments generalizing inner draft with
  | nil => exact (reading_ending_iff hending hsettles).mpr ⟨command, hcompletes, rfl⟩
  | verbose hword harguments ih =>
    rw [List.cons_append, reading_move (.verbose hword hsettles), ← Nat.add_assoc]
    exact ih hsettles hcompletes
  | operand harguments ih =>
    obtain ⟨placed, hplace, settled, hsettled, hrest⟩ := (completes_cons_iff hsettles).mp hcompletes
    rw [List.cons_append, reading_move (.place hcompletes.operandWord hplace)]
    exact (reading_settled hsettled).trans (ih hsettled.settled hrest)

end FactorialCheck.CommandLine
