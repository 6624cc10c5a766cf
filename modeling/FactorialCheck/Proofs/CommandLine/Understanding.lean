import FactorialCheck.Proofs.CommandLine.Operands

/-!
# What is understood

The command lines that are read without a stop are those of the grammar, and
they are read as what it says.
-/

namespace FactorialCheck.CommandLine

open Numeral (Denotes)
open Draft (Settles)

variable {outer inner : Nat} {words : List String} {invocation : Invocation}

/-! ## Arguments of a check -/

/-- The word after `--input` is its value, whatever else it could have been. -/
theorem awaited_iff {input : Option Int64} {json : Bool} :
    readFrom (reading outer inner (.check input json .awaited) false) words = .ok invocation ↔
      ∃ text n rest, words = text :: rest ∧ input = none ∧ Denotes text n ∧
        readFrom (reading outer inner (.check (some n) json .none) false) rest =
          .ok invocation := by
  have hgiven (text : String) (input' : Option Int64) (json' : Bool) :
      Draft.check input json (.given text) ≠ .check input' json' .awaited := by
    intro h
    cases h
  constructor
  · intro h
    cases words with
    | nil => cases h
    | cons word rest =>
      obtain ⟨q, hmove, hrest⟩ := reading_cons_iff.mp h
      cases hmove with
      | terminator =>
        cases rest with
        | nil => cases hrest
        | cons operand rest =>
          obtain ⟨placed, hplace, -⟩ := terminated_cons_iff.mp hrest
          cases hplace
      | verbose hword hsettles => cases hsettles
      | json hsettles => cases hsettles
      | awaitInput hsettles => cases hsettles
      | joinedInput hdenotes hsettles => cases hsettles
      | place hword hplace =>
        cases hplace
        obtain ⟨settled, hsettles, hread⟩ := (reading_eq_ok_iff (hgiven word)).mp hrest
        cases hsettles with
        | input json hdenotes => exact ⟨word, _, rest, rfl, rfl, hdenotes, hread⟩
  · rintro ⟨text, n, rest, rfl, rfl, hdenotes, hread⟩
    rw [reading_move (.place (operandWord_denotes rfl hdenotes) rfl)]
    exact (reading_eq_ok_iff (hgiven text)).mpr ⟨_, .input json hdenotes, hread⟩

/-- What was given before is not given again, and it is not lost. -/
theorem checkArguments_sound {input : Option Int64} {json : Bool}
    (h : readFrom (reading outer inner (.check input json .none) false) words = .ok invocation) :
    ∃ arguments ending more wanted value, words = arguments ++ ending ∧
      CheckArguments arguments more wanted value ∧ Ending ending [] ∧
      (json = true → wanted = false) ∧ (input = none ∨ value = none) ∧
      ⟨verbosity outer (inner + more), some (.check (input.or value) (json || wanted))⟩ =
        invocation := by
  -- By the number of words: a value that follows its flag takes two of them at once.
  induction hsize : words.length using Nat.strong_induction_on
    generalizing words inner input json with
  | _ size ih =>
    cases words with
    | nil =>
      obtain ⟨command, hcompletes, hinvocation⟩ :=
        (reading_ending_iff .plain (.check input json)).mp h
      cases hcompletes
      refine ⟨[], [], 0, false, none, rfl, .nil, .plain, fun _ => rfl, .inr rfl, ?_⟩
      rwa [Option.or_none, Bool.or_false]
    | cons word rest =>
      obtain ⟨q, hmove, hrest⟩ := reading_cons_iff.mp h
      cases hmove with
      | terminator =>
        obtain ⟨command, hcompletes, hinvocation⟩ :=
          (terminated_iff (.check input json)).mp hrest
        cases hcompletes
        refine ⟨[], ["--"], 0, false, none, rfl, .nil, .terminated [], fun _ => rfl, .inr rfl, ?_⟩
        rwa [Option.or_none, Bool.or_false]
      | verbose hword hsettles =>
        cases hsettles
        obtain ⟨arguments, ending, more, wanted, value, rfl, harguments, hending, hjson, hinput,
          rfl⟩ := ih rest.length (by simp only [← hsize, List.length_cons]; omega) hrest rfl
        refine ⟨_, ending, _, wanted, value, rfl, .verbose hword harguments, hending, hjson,
          hinput, ?_⟩
        rw [Nat.add_assoc]
      | json hsettles =>
        cases hsettles
        obtain ⟨arguments, ending, more, wanted, value, rfl, harguments, hending, hjson, hinput,
          rfl⟩ := ih rest.length (by simp only [← hsize, List.length_cons]; omega) hrest rfl
        obtain rfl := hjson rfl
        exact ⟨_, ending, more, true, value, rfl, .json harguments, hending, nofun, hinput, rfl⟩
      | awaitInput hsettles =>
        cases hsettles
        obtain ⟨text, n, rest, rfl, rfl, hdenotes, hread⟩ := awaited_iff.mp hrest
        obtain ⟨arguments, ending, more, wanted, value, rfl, harguments, hending, hjson, hinput,
          rfl⟩ := ih rest.length (by simp only [← hsize, List.length_cons]; omega) hread rfl
        obtain rfl : value = none := hinput.resolve_left nofun
        exact ⟨_, ending, more, wanted, some n, rfl, .separateInput hdenotes harguments, hending,
          hjson, .inl rfl, rfl⟩
      | joinedInput hdenotes hsettles =>
        cases hsettles
        obtain ⟨arguments, ending, more, wanted, value, rfl, harguments, hending, hjson, hinput,
          rfl⟩ := ih rest.length (by simp only [← hsize, List.length_cons]; omega) hrest rfl
        obtain rfl : value = none := hinput.resolve_left nofun
        exact ⟨_, ending, more, wanted, _, rfl, .joinedInput hdenotes harguments, hending, hjson,
          .inl rfl, rfl⟩
      | place hword hplace => cases hplace

/-- Arguments that repeat nothing given before are taken in, whatever follows them. -/
theorem readFrom_checkArguments {arguments : List String} {more : Nat} {wanted : Bool}
    {value : Option Int64} (harguments : CheckArguments arguments more wanted value)
    {input : Option Int64} {json : Bool} (hjson : json = true → wanted = false)
    (hinput : input = none ∨ value = none) (rest : List String) :
    readFrom (reading outer inner (.check input json .none) false) (arguments ++ rest) =
      readFrom
        (reading outer (inner + more) (.check (input.or value) (json || wanted) .none) false)
        rest := by
  induction harguments generalizing inner input json with
  | nil =>
    rw [Option.or_none, Bool.or_false]
    rfl
  | verbose hword harguments ih =>
    rw [List.cons_append, reading_move (.verbose hword (.check input json)), ← Nat.add_assoc]
    exact ih hjson hinput
  | json harguments ih =>
    cases json with
    | false =>
      rw [List.cons_append, reading_move (.json (.check input false))]
      exact ih (fun _ => rfl) hinput
    | true => cases hjson rfl
  | joinedInput hdenotes harguments ih =>
    obtain rfl : input = none := hinput.resolve_right nofun
    rw [List.cons_append, reading_move (.joinedInput hdenotes (.check none json))]
    exact ih hjson (.inr rfl)
  | separateInput hdenotes harguments ih =>
    obtain rfl : input = none := hinput.resolve_right nofun
    rw [List.cons_append, List.cons_append, reading_move (.awaitInput (.check none json))]
    refine (reading_move (.place (operandWord_denotes rfl hdenotes) rfl)).trans ?_
    exact (reading_settled (.input json hdenotes)).trans (ih hjson (.inr rfl))

theorem checkArguments_complete {arguments ending : List String} {more : Nat} {wanted : Bool}
    {value : Option Int64} (harguments : CheckArguments arguments more wanted value)
    (hending : Ending ending []) :
    readFrom (reading outer 0 (.check none false .none) false) (arguments ++ ending) =
      .ok ⟨verbosity outer more, some (.check value wanted)⟩ := by
  have hjson : false = true → wanted = false := nofun
  rw [readFrom_checkArguments harguments hjson (.inl rfl), Option.none_or, Bool.false_or,
    Nat.zero_add]
  exact (reading_ending_iff hending (.check value wanted)).mpr ⟨_, .check value wanted, rfl⟩

/-! ## Arguments of the other commands -/

theorem evalArguments_of_verboseWords {arguments : List String} {more : Nat}
    (h : VerboseWords arguments more) : EvalArguments arguments more [] := by
  induction h with
  | nil => exact .nil
  | cons hword _ ih => exact .verbose hword ih

theorem verboseWords_of_evalArguments {arguments operands : List String} {more : Nat}
    (h : EvalArguments arguments more operands) (hnone : operands = []) :
    VerboseWords arguments more := by
  induction h with
  | nil => exact .nil
  | verbose hword _ ih => exact .cons hword (ih hnone)
  | operand _ _ => cases hnone

theorem nothing_sound
    (h : readFrom (reading outer 0 .nothing false) words = .ok invocation) :
    Continuation outer ("nothing" :: words) invocation := by
  obtain ⟨arguments, ending, before, after, more, command, rfl, harguments, hending, hcompletes,
    rfl⟩ := operands_sound rfl .nothing h
  generalize hoperands : before ++ after = operands at hcompletes
  cases hcompletes
  obtain ⟨hbefore, rfl⟩ := List.append_eq_nil_iff.mp hoperands
  rw [Nat.zero_add]
  exact .nothing (verboseWords_of_evalArguments harguments hbefore) hending

theorem eval_sound
    (h : readFrom (reading outer 0 (.eval .start) false) words = .ok invocation) :
    Continuation outer ("eval" :: words) invocation := by
  obtain ⟨arguments, ending, before, after, more, command, rfl, harguments, hending, hcompletes,
    rfl⟩ := operands_sound rfl .start h
  generalize hoperands : before ++ after = operands at hcompletes
  cases hcompletes with
  | start strategy hdenotes =>
    rw [Nat.zero_add]
    exact .eval harguments hending hoperands hdenotes

theorem check_sound
    (h : readFrom (reading outer 0 (.check none false .none) false) words = .ok invocation) :
    Continuation outer ("check" :: words) invocation := by
  obtain ⟨arguments, ending, more, wanted, value, rfl, harguments, hending, -, -, rfl⟩ :=
    checkArguments_sound h
  rw [Nat.zero_add, Option.none_or, Bool.false_or]
  exact .check harguments hending

/-! ## The whole command line -/

theorem readFrom_ended (h : readFrom (.ended (min 255 outer)) words = .ok invocation) :
    words = [] ∧ ⟨min 255 outer, none⟩ = invocation := by
  cases words with
  | nil => exact ⟨rfl, Except.ok.inj h⟩
  | cons word rest =>
    rw [readFrom_cons, State.next] at h
    cases hname : Subcommand.ofName? word with
    | none =>
      rw [hname] at h
      cases h
    | some subcommand =>
      rw [hname] at h
      cases h

theorem readFrom_help_ne_ok (topic : Option Subcommand) :
    readFrom (.help topic) words ≠ .ok invocation := by
  induction words generalizing topic with
  | nil => cases topic <;> nofun
  | cons word rest ih =>
    rw [readFrom_cons]
    intro h
    obtain ⟨s, hnext, hrest⟩ := bind_eq_ok_iff.mp h
    cases topic with
    | none =>
      rw [State.next] at hnext
      cases hname : Subcommand.ofName? word with
      | none =>
        rw [hname] at hnext
        cases hnext
      | some topic =>
        rw [hname] at hnext
        cases hnext
        exact ih (some topic) hrest
    | some topic => cases hnext

theorem program_sound (h : readFrom (.program (min 255 outer)) words = .ok invocation) :
    ∃ requests rest more, words = requests ++ rest ∧ VerboseWords requests more ∧
      Continuation (outer + more) rest invocation := by
  induction words generalizing outer with
  | nil =>
    cases h
    exact ⟨[], [], 0, rfl, .nil, .bare .plain⟩
  | cons word rest ih =>
    rw [readFrom_cons] at h
    obtain ⟨s, hnext, hrest⟩ := bind_eq_ok_iff.mp h
    cases programMove_of_next hnext with
    | verbose hword =>
      obtain ⟨requests, rest, more, rfl, hrequests, hcontinuation⟩ := ih hrest
      rw [Nat.add_assoc] at hcontinuation
      exact ⟨_, rest, _, rfl, .cons hword hrequests, hcontinuation⟩
    | terminator =>
      obtain ⟨rfl, rfl⟩ := readFrom_ended hrest
      exact ⟨[], ["--"], 0, rfl, .nil, .bare (.terminated [])⟩
    | subcommand subcommand =>
      refine ⟨[], _, 0, rfl, .nil, ?_⟩
      cases subcommand with
      | check => exact check_sound hrest
      | eval => exact eval_sound hrest
      | nothing => exact nothing_sound hrest
      | help => exact absurd hrest (readFrom_help_ne_ok none)

theorem program_move {s : State} {word : String} {rest : List String}
    (h : ProgramMove outer word s) :
    readFrom (.program (min 255 outer)) (word :: rest) = readFrom s rest := by
  rw [readFrom_cons, h.next_eq]
  rfl

theorem continuation_complete (h : Continuation outer words invocation) :
    readFrom (.program (min 255 outer)) words = .ok invocation := by
  cases h with
  | bare hending => cases hending <;> rfl
  | @nothing _ _ inner harguments hending =>
    rw [← Nat.zero_add inner]
    refine (program_move (.subcommand .nothing)).trans ?_
    rw [enter_nothing]
    exact operands_complete (evalArguments_of_verboseWords harguments) hending .nothing .nothing
  | @check _ _ inner _ _ harguments hending =>
    refine (program_move (.subcommand .check)).trans ?_
    rw [enter_check]
    exact checkArguments_complete harguments hending
  | @eval _ _ _ _ inner strategy _ _ harguments hending hoperands hdenotes =>
    rw [← Nat.zero_add inner]
    refine (program_move (.subcommand .eval)).trans ?_
    rw [enter_eval]
    refine operands_complete harguments hending .start ?_
    rw [hoperands]
    exact .start strategy hdenotes

theorem readFrom_requests {requests : List String} {more : Nat}
    (hrequests : VerboseWords requests more) (rest : List String) :
    readFrom (.program (min 255 outer)) (requests ++ rest) =
      readFrom (.program (min 255 (outer + more))) rest := by
  induction hrequests generalizing outer with
  | nil => rfl
  | cons hword _ ih =>
    rw [List.cons_append, program_move (.verbose hword), ← Nat.add_assoc]
    exact ih

theorem program_complete {requests rest : List String} {more : Nat}
    (hrequests : VerboseWords requests more) (h : Continuation (outer + more) rest invocation) :
    readFrom (.program (min 255 outer)) (requests ++ rest) = .ok invocation := by
  rw [readFrom_requests hrequests]
  exact continuation_complete h

/-- A command line is understood exactly if the grammar says so, and as it says. -/
theorem parse_eq_ok_iff (words : List String) (invocation : Invocation) :
    parse words = .ok invocation ↔ Understood words invocation := by
  have hstart : parse words = readFrom (.program (min 255 0)) words :=
    rfl
  rw [hstart]
  constructor
  · intro h
    obtain ⟨requests, rest, outer, rfl, hrequests, hcontinuation⟩ := program_sound h
    rw [Nat.zero_add] at hcontinuation
    exact ⟨requests, rest, outer, rfl, hrequests, hcontinuation⟩
  · rintro ⟨requests, rest, outer, rfl, hrequests, hcontinuation⟩
    rw [← Nat.zero_add outer] at hcontinuation
    exact program_complete hrequests hcontinuation

end FactorialCheck.CommandLine
