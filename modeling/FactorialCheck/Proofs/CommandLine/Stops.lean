import FactorialCheck.Proofs.CommandLine.Understanding

/-!
# Stops

A word that stops the reading stops it whatever follows. The end of the words stops it
for what is missing or was left unread, so that a stop for any other reason is due to
one of the words. Help is shown as soon as it is asked for.
-/

namespace FactorialCheck.CommandLine

/-! ## Stops that are due to a word -/

/-- The reasons to stop at a word that are never found at the end of the words. -/
inductive Stop.Immediate : Stop → Prop where
  | version : Immediate .version
  | unknownSubcommand (word : String) : Immediate (.mistake (.unknownSubcommand word))
  | unexpectedArgument (word : String) : Immediate (.mistake (.unexpectedArgument word))
  | unexpectedValue (value : String) (flag : Flag) :
      Immediate (.mistake (.unexpectedValue value flag))

section End

variable {reason : Stop}

theorem not_immediate_of_readNumber {operand : Operand} {text : String}
    (h : readNumber operand text = .error reason) : ¬ reason.Immediate := by
  rw [readNumber] at h
  cases hread : Numeral.read text with
  | ok n =>
    rw [hread] at h
    cases h
  | error fault =>
    rw [hread] at h
    cases h
    rintro ⟨⟩

theorem not_immediate_of_readStrategy {text : String}
    (h : readStrategy text = .error reason) : ¬ reason.Immediate := by
  rw [readStrategy] at h
  cases hname : Strategy.ofName? text with
  | some strategy =>
    rw [hname] at h
    cases h
  | none =>
    simp only [hname] at h
    by_cases hempty : text = ""
    · rw [if_pos hempty] at h
      cases h
      rintro ⟨⟩
    · rw [if_neg hempty] at h
      cases h
      rintro ⟨⟩

theorem not_immediate_of_assignInput {input : Option Int64} {json : Bool} {text : String}
    (h : Draft.assignInput input json text = .error reason) : ¬ reason.Immediate := by
  cases input with
  | some n =>
    cases h
    rintro ⟨⟩
  | none => exact not_immediate_of_readNumber (eq_error_of_bind_ok h)

/-- What stands unread can only be wrong in itself, -/
theorem not_immediate_of_settle {draft : Draft} (h : draft.settle = .error reason) :
    ¬ reason.Immediate := by
  cases draft with
  | check input json pending =>
    cases pending with
    | none => cases h
    | awaited =>
      cases h
      rintro ⟨⟩
    | given text => exact not_immediate_of_assignInput h
  | eval operands =>
    cases operands with
    | strategyGiven text => exact not_immediate_of_readStrategy (eq_error_of_bind_ok h)
    | numberGiven strategy text => exact not_immediate_of_readNumber (eq_error_of_bind_ok h)
    | start => cases h
    | strategyRead strategy => cases h
    | numberRead strategy n => cases h
  | nothing => cases h

/-- and what is settled can only be incomplete. -/
theorem not_immediate_of_complete {draft : Draft} (h : draft.complete = .error reason) :
    ¬ reason.Immediate := by
  cases draft with
  | check input json pending => cases h
  | eval operands =>
    cases operands with
    | numberRead strategy n => cases h
    | _ =>
      cases h
      rintro ⟨⟩
  | nothing => cases h

theorem not_immediate_of_finish {s : State} (h : s.finish = .error reason) :
    ¬ reason.Immediate := by
  cases s with
  | program verbose => cases h
  | ended verbose => cases h
  | help topic =>
    cases topic with
    | none =>
      cases h
      rintro ⟨⟩
    | some topic =>
      cases h
      rintro ⟨⟩
  | inside p =>
    rcases bind_eq_error_iff.mp h with hsettle | ⟨draft, -, hrest⟩
    · exact not_immediate_of_settle hsettle
    · exact not_immediate_of_complete (eq_error_of_bind_ok hrest)

end End

section Words

variable {s t : State} {words before : List String} {word : String} {reason : Stop}

theorem readFrom_append (h : words.foldlM State.next s = .ok t) (more : List String) :
    readFrom s (words ++ more) = readFrom t more := by
  rw [readFrom, List.foldlM_append, h]
  rfl

/-- The words behind one that stops the reading are not looked at. -/
theorem readFrom_stopped (hbefore : before.foldlM State.next s = .ok t)
    (hword : t.next word = .error reason) (more : List String) :
    readFrom s (before ++ word :: more) = .error reason := by
  rw [readFrom_append hbefore, readFrom_cons, hword]
  rfl

/-- A stop that the end does not cause is due to one of the words. -/
theorem exists_stopping_word (hreason : reason.Immediate)
    (h : readFrom s words = .error reason) :
    ∃ before word after t, words = before ++ word :: after ∧
      before.foldlM State.next s = .ok t ∧ t.next word = .error reason := by
  rcases bind_eq_error_iff.mp h with hwords | ⟨t, -, hfinish⟩
  · exact exists_of_foldlM_eq_error hwords
  · exact absurd hreason (not_immediate_of_finish hfinish)

end Words

/-! ## Asking for help -/

def Command.subcommand : Command → Subcommand
  | .check .. => .check
  | .eval .. => .eval
  | .nothing => .nothing

/-- The page shown to who asks for help at the end of a command line. -/
def Invocation.page (invocation : Invocation) : Page :=
  match invocation.command with
  | none => .program
  | some command => .subcommand command.subcommand

/-- The ways to ask for help by a word of its own. -/
def helpWords : List String :=
  ["-h", "--help"]

/-- The states before any terminator. -/
inductive State.Unterminated : State → Prop where
  | program (asked : Nat) : Unterminated (.program (min 255 asked))
  | help (topic : Option Subcommand) : Unterminated (.help topic)
  | reading (outer inner : Nat) (draft : Draft) :
      Unterminated (reading outer inner draft false)

namespace State.Unterminated

variable {s t : State} {word : String} {words : List String}

theorem enter (asked : Nat) (subcommand : Subcommand) :
    (State.enter (min 255 asked) subcommand).Unterminated := by
  cases subcommand with
  | check => exact .reading asked 0 _
  | eval => exact .reading asked 0 _
  | nothing => exact .reading asked 0 _
  | help => exact .help none

/-- Only the terminator ends such a state. -/
theorem next (h : s.Unterminated) (hword : word ≠ "--") (hnext : s.next word = .ok t) :
    t.Unterminated := by
  cases h with
  | program asked =>
    cases programMove_of_next hnext with
    | verbose => exact .program _
    | terminator => exact absurd rfl hword
    | subcommand subcommand => exact enter asked subcommand
  | help topic =>
    cases topic with
    | none =>
      rw [State.next] at hnext
      split at hnext
      · cases hnext
        exact .help _
      · cases hnext
    | some topic => cases hnext
  | reading outer inner draft =>
    obtain ⟨q, hq, rfl⟩ := map_eq_ok_iff.mp hnext
    cases move_of_next hq with
    | terminator => exact absurd rfl hword
    | verbose => exact .reading outer _ _
    | json => exact .reading outer inner _
    | awaitInput => exact .reading outer inner _
    | joinedInput => exact .reading outer inner _
    | place => exact .reading outer inner _

theorem foldlM (h : s.Unterminated) (hwords : "--" ∉ words)
    (hfold : words.foldlM State.next s = .ok t) : t.Unterminated := by
  induction words generalizing s with
  | nil =>
    cases hfold
    exact h
  | cons word rest ih =>
    obtain ⟨u, hnext, hrest⟩ := bind_eq_ok_iff.mp hfold
    obtain ⟨hword, hothers⟩ := not_or.mp (mt List.mem_cons.mpr hwords)
    exact ih (h.next (Ne.symm hword) hnext) hothers hrest

end State.Unterminated

section Help

variable {word : String} (hword : word ∈ helpWords)
include hword

theorem programNext_helpWord (verbose : Nat) :
    State.next (.program verbose) word = .error (.help .program) := by
  simp only [helpWords, List.mem_cons, List.not_mem_nil, or_false] at hword
  rcases hword with rfl | rfl <;> rfl

/-- A request for help is never taken for a value. -/
theorem next_helpWord (outer inner : Nat) (draft : Draft) :
    Progress.next ⟨outer, inner, draft, false⟩ word =
      Progress.act ⟨outer, inner, draft, false⟩ .help := by
  simp only [helpWords, List.mem_cons, List.not_mem_nil, or_false] at hword
  rcases hword with rfl | rfl
  · have hletter : draft.flags.find? (fun flag => flag.letter? == some 'h') = some .help := by
      cases draft <;> rfl
    have hword : Word.ofText "-h" = .cluster ['h'] := rfl
    have hlooks : looksNumeric ['h'] = false := rfl
    rw [Progress.next, if_neg Bool.false_ne_true, hword]
    simp only [hlooks, Bool.and_false, Bool.false_eq_true, if_false, readCluster,
      List.foldlM_cons, List.foldlM_nil, readLetter, hletter, bind_pure]
  · have hknown : .help ∈ draft.flags := by
      cases draft <;> simp [Draft.flags]
    exact next_spelling hknown outer inner

end Help

theorem subcommand_of_complete {draft : Draft} {command : Command}
    (h : draft.complete = .ok command) : draft.subcommand = command.subcommand := by
  cases draft with
  | check input json pending =>
    cases h
    rfl
  | eval operands =>
    cases operands with
    | numberRead strategy n =>
      cases h
      rfl
    | _ => cases h
  | nothing =>
    cases h
    rfl

theorem act_help {draft settled : Draft} (h : draft.settle = .ok settled) (outer inner : Nat)
    (terminated : Bool) :
    Progress.act ⟨outer, inner, draft, terminated⟩ .help =
      .error (.help (.subcommand settled.subcommand)) := by
  rw [Progress.act, h]
  rfl

/-- Where the words could end, help is shown to the one who asks for it. -/
theorem State.Unterminated.next_helpWord {s : State} (h : s.Unterminated)
    {invocation : Invocation} (hfinish : s.finish = .ok invocation) {word : String}
    (hword : word ∈ helpWords) : s.next word = .error (.help invocation.page) := by
  cases h with
  | program asked =>
    cases hfinish
    exact programNext_helpWord hword _
  | help topic => cases topic <;> cases hfinish
  | reading outer inner draft =>
    obtain ⟨settled, hsettle, hrest⟩ := bind_eq_ok_iff.mp hfinish
    obtain ⟨command, hcomplete, hok⟩ := bind_eq_ok_iff.mp hrest
    cases hok
    rw [CommandLine.reading, State.next, CommandLine.next_helpWord hword, act_help hsettle,
      subcommand_of_complete hcomplete]
    rfl

/-! ## The first mistake -/

/--
The words are read from left to right, and the first mistake among them wins. A stop
for anything but what is missing or unread at the end is due to one of the words:
those before it stop for no such reason, and those after it, to which more can be
added, make no difference. Behind a command line that is understood, without a
terminator, a request for help shows the page on its command, whatever follows.
-/
theorem first_mistake_wins (words : List String) :
    (∀ reason : Stop, reason.Immediate → parse words = .error reason →
      (∀ more, parse (words ++ more) = .error reason) ∧
      ∃ before word after, words = before ++ word :: after ∧
        (∀ earlier, parse before = .error earlier → ¬ earlier.Immediate) ∧
        ∀ more, parse (before ++ word :: more) = .error reason) ∧
    (∀ invocation, "--" ∉ words → parse words = .ok invocation →
      ∀ word ∈ ["-h", "--help"], ∀ more,
        parse (words ++ word :: more) = .error (.help invocation.page)) := by
  constructor
  · intro reason hreason h
    obtain ⟨before, word, after, t, rfl, hbefore, hword⟩ := exists_stopping_word hreason h
    refine ⟨fun more => ?_, before, word, after, rfl, fun earlier hearlier => ?_, ?_⟩
    · rw [List.append_assoc]
      exact readFrom_stopped hbefore hword (after ++ more)
    · have hfinish : t.finish = .error earlier := by
        rw [← hearlier, parse, hbefore]
        rfl
      exact not_immediate_of_finish hfinish
    · exact readFrom_stopped hbefore hword
  · intro invocation hwords h word hword more
    obtain ⟨t, hfold, hfinish⟩ := bind_eq_ok_iff.mp h
    have hopen : t.Unterminated := State.Unterminated.foldlM (.program 0) hwords hfold
    exact readFrom_stopped hfold (hopen.next_helpWord hfinish hword) more

/--
A bad value is told at the end, unless an unknown flag comes before that, and then
nothing else is. Help is shown although the words behind it mean nothing.
-/
theorem first_mistake_wins_over_bad_value :
    let value := ["check", "--input", "five"]
    let flag := ["check", "--input", "five", "--jsn"]
    let complete := ["-v", "eval", "for", "-3"]
    let mistake := Stop.mistake (.unexpectedArgument "--jsn")
    parse value = .error (.mistake (.invalidNumber "five" .input .strayCharacter)) ∧
    mistake.Immediate ∧ parse flag = .error mistake ∧
    parse (flag ++ ["--json", "-h"]) = .error mistake ∧
    "--" ∉ complete ∧ parse complete = .ok ⟨1, some (.eval .forLoop (-3))⟩ ∧
    parse (complete ++ "-h" :: ["five", "--jsn"]) = .error (.help (.subcommand .eval)) := by
  intro value flag complete mistake
  have hmistake : mistake.Immediate := .unexpectedArgument "--jsn"
  have hflag : parse flag = .error mistake := rfl
  have hwords : "--" ∉ complete := by decide
  have hcomplete : parse complete = .ok ⟨1, some (.eval .forLoop (-3))⟩ := rfl
  have hhelp := (first_mistake_wins complete).2 _ hwords hcomplete "-h" (by decide)
  exact ⟨rfl, hmistake, hflag, ((first_mistake_wins flag).1 mistake hmistake hflag).1 _,
    hwords, hcomplete, hhelp _⟩

end FactorialCheck.CommandLine
