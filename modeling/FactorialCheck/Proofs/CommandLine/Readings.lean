import FactorialCheck.Proofs.CommandLine.Arguments

/-!
# Readings

What a list of words says from a state on. What stands unread can be settled
first, and after the terminator the words are operands.
-/

namespace FactorialCheck.CommandLine

open Numeral (Denotes)
open Draft (Settles)

/-- What the words say from a state on. -/
def readFrom (s : State) (words : List String) : Except Stop Invocation :=
  words.foldlM State.next s >>= State.finish

theorem readFrom_nil (s : State) : readFrom s [] = s.finish :=
  rfl

theorem readFrom_cons (s : State) (word : String) (rest : List String) :
    readFrom s (word :: rest) = s.next word >>= fun t => readFrom t rest := by
  rw [readFrom, List.foldlM_cons, bind_assoc]
  rfl

theorem readFrom_inside_cons (p : Progress) (word : String) (rest : List String) :
    readFrom (.inside p) (word :: rest) =
      p.next word >>= fun q => readFrom (.inside q) rest := by
  rw [readFrom_cons, State.next]
  cases p.next word <;> rfl

/-! ## Settling before the next word -/

section Settled

variable {draft settled : Draft} (h : Settles draft settled) (outer inner : Nat)
include h

theorem act_settled (terminated : Bool) (flag : Flag) :
    Progress.act ⟨outer, inner, draft, terminated⟩ flag =
      Progress.act ⟨outer, inner, settled, terminated⟩ flag := by
  rw [Progress.act, Progress.act, h.settle_eq, h.settled.settle_eq]

theorem give_settled (terminated : Bool) (flag : Flag) (text : String) :
    Progress.give ⟨outer, inner, draft, terminated⟩ flag text =
      Progress.give ⟨outer, inner, settled, terminated⟩ flag text := by
  cases flag with
  | input =>
    rw [Progress.give, Progress.give, h.settle_eq, h.settled.settle_eq]
  | _ => rfl

theorem place_settled (terminated : Bool) (word : String) :
    Progress.place ⟨outer, inner, draft, terminated⟩ word =
      Progress.place ⟨outer, inner, settled, terminated⟩ word := by
  rw [Progress.place, Progress.place, h.place_eq]

theorem readCluster_settled {letters : List Char} (hne : letters ≠ []) :
    readCluster draft.flags Progress.act ⟨outer, inner, draft, false⟩ letters =
      readCluster settled.flags Progress.act ⟨outer, inner, settled, false⟩ letters := by
  cases letters with
  | nil => exact absurd rfl hne
  | cons letter rest =>
    have hletter : readLetter draft.flags Progress.act ⟨outer, inner, draft, false⟩ letter =
        readLetter settled.flags Progress.act ⟨outer, inner, settled, false⟩ letter := by
      simp only [readLetter, h.flags_eq, act_settled h]
    rw [readCluster, readCluster, List.foldlM_cons, List.foldlM_cons, hletter, h.flags_eq]

/-- Every word but the terminator settles the draft or does not look at what is unread. -/
theorem next_settled {word : String} (hword : word ≠ "--") :
    Progress.next ⟨outer, inner, draft, false⟩ word =
      Progress.next ⟨outer, inner, settled, false⟩ word := by
  rw [Progress.next, Progress.next, if_neg Bool.false_ne_true, if_neg Bool.false_ne_true]
  cases hshape : Word.ofText word with
  | terminator => exact absurd (Word.eq_terminator_of_ofText hshape) hword
  | long name value =>
    simp only [readLong, h.flags_eq]
    cases draft.flags.find? (fun flag => flag.name == name) with
    | none => rfl
    | some flag =>
      cases value with
      | none => exact act_settled h outer inner false flag
      | some text => exact give_settled h outer inner false flag text
  | cluster letters =>
    simp only [h.expectsNumber_eq, place_settled h,
      readCluster_settled h outer inner (Word.eq_cluster_of_ofText hshape).2]
  | plain => exact place_settled h outer inner false word

/-- What stands unread can as well be settled before the next word. -/
theorem readFrom_settled (terminated : Bool) (words : List String) :
    readFrom (.inside ⟨outer, inner, draft, terminated⟩) words =
      readFrom (.inside ⟨outer, inner, settled, terminated⟩) words := by
  -- The terminator alone leaves the draft unsettled; the words behind it meet it again.
  induction words generalizing terminated with
  | nil =>
    rw [readFrom_nil, readFrom_nil, State.finish, State.finish, h.settle_eq, h.settled.settle_eq]
    rfl
  | cons word rest ih =>
    rw [readFrom_inside_cons, readFrom_inside_cons]
    cases terminated with
    | true => exact congrArg (· >>= _) (place_settled h outer inner true word)
    | false =>
      by_cases hword : word = "--"
      · rw [hword]
        exact ih true
      · rw [next_settled h outer inner hword]

end Settled

/-! ## The state inside a subcommand -/

/-- Inside a subcommand, after counts of requests for verbosity before it and in it. -/
def reading (outer inner : Nat) (draft : Draft) (terminated : Bool) : State :=
  .inside ⟨min 255 outer, min 255 inner, draft, terminated⟩

theorem enter_check (outer : Nat) :
    State.enter (min 255 outer) .check = reading outer 0 (.check none false .none) false :=
  rfl

theorem enter_eval (outer : Nat) :
    State.enter (min 255 outer) .eval = reading outer 0 (.eval .start) false :=
  rfl

theorem enter_nothing (outer : Nat) :
    State.enter (min 255 outer) .nothing = reading outer 0 .nothing false :=
  rfl

section Reading

variable {outer inner : Nat} {draft settled : Draft} {terminated : Bool} {word : String}
  {words rest : List String} {invocation : Invocation}

theorem verbose_eq :
    Progress.verbose ⟨min 255 outer, min 255 inner, draft, terminated⟩ =
      verbosity outer inner := by
  rw [Progress.verbose, verbosity]
  by_cases hinner : inner = 0
  · rw [hinner]
    rfl
  · rw [if_neg hinner, if_neg]
    change ¬ min 255 inner = 0
    omega

theorem reading_settled (h : Settles draft settled) :
    readFrom (reading outer inner draft terminated) words =
      readFrom (reading outer inner settled terminated) words :=
  readFrom_settled h _ _ terminated words

/-- At the end a settled draft has to be complete. -/
theorem reading_nil_iff (h : Settles draft draft) :
    readFrom (reading outer inner draft terminated) [] = .ok invocation ↔
      ∃ command, draft.complete = .ok command ∧
        ⟨verbosity outer inner, some command⟩ = invocation := by
  rw [readFrom_nil, reading, State.finish]
  simp only [h.settle_eq, ok_bind_eq, bind_eq_ok_iff, Except.ok.injEq, verbose_eq]

theorem reading_cons_iff :
    readFrom (reading outer inner draft false) (word :: rest) = .ok invocation ↔
      ∃ q, Move (min 255 outer) inner draft word q ∧
        readFrom (.inside q) rest = .ok invocation := by
  rw [reading, readFrom_inside_cons, bind_eq_ok_iff]
  simp only [next_eq_ok_iff]

theorem terminated_cons_iff :
    readFrom (reading outer inner draft true) (word :: rest) = .ok invocation ↔
      ∃ placed, draft.place true word = .ok placed ∧
        readFrom (reading outer inner placed true) rest = .ok invocation := by
  rw [reading, readFrom_inside_cons, bind_eq_ok_iff]
  simp only [Progress.next, if_true, Progress.place, bind_eq_ok_iff, Except.ok.injEq]
  constructor
  · rintro ⟨q, ⟨placed, hplace, rfl⟩, hrest⟩
    exact ⟨placed, hplace, hrest⟩
  · rintro ⟨placed, hplace, hrest⟩
    exact ⟨_, ⟨placed, hplace, rfl⟩, hrest⟩

/-- A draft that leads to a result can be settled, unless it awaits a value. -/
theorem settles_of_reading (hawaits : ∀ input json, draft ≠ .check input json .awaited)
    (h : readFrom (reading outer inner draft terminated) words = .ok invocation) :
    ∃ settled, Settles draft settled := by
  induction words generalizing terminated with
  | nil =>
    rw [readFrom_nil, reading, State.finish] at h
    obtain ⟨settled, hsettle, -⟩ := bind_eq_ok_iff.mp h
    exact ⟨settled, Draft.settles_of_settle hsettle⟩
  | cons word rest ih =>
    cases terminated with
    | true =>
      obtain ⟨placed, hplace, -⟩ := terminated_cons_iff.mp h
      exact (Draft.places_of_place hplace).settles hawaits
    | false =>
      obtain ⟨q, hmove, hrest⟩ := reading_cons_iff.mp h
      cases hmove with
      | terminator => exact ih hrest
      | verbose hword hsettles => exact ⟨_, hsettles⟩
      | json hsettles => exact ⟨_, hsettles⟩
      | awaitInput hsettles => exact ⟨_, hsettles⟩
      | joinedInput hdenotes hsettles => exact ⟨_, hsettles⟩
      | place hword hplace => exact (Draft.places_of_place hplace).settles hawaits

theorem reading_eq_ok_iff (hawaits : ∀ input json, draft ≠ .check input json .awaited) :
    readFrom (reading outer inner draft terminated) words = .ok invocation ↔
      ∃ settled, Settles draft settled ∧
        readFrom (reading outer inner settled terminated) words = .ok invocation := by
  constructor
  · intro h
    obtain ⟨settled, hsettles⟩ := settles_of_reading hawaits h
    exact ⟨settled, hsettles, reading_settled hsettles ▸ h⟩
  · rintro ⟨settled, hsettles, h⟩
    rwa [reading_settled hsettles]

end Reading

end FactorialCheck.CommandLine
