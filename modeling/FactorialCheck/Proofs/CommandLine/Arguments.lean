import FactorialCheck.Proofs.CommandLine.Drafts
import Mathlib.Data.List.TakeWhile

/-!
# Arguments of a subcommand

What one word does inside a subcommand, as long as it can still be a flag.
-/

namespace FactorialCheck.CommandLine

open Numeral (Denotes)
open Draft (Settles)

/-- A draft of a check that is settled awaits nothing. -/
theorem Draft.Settles.pending_eq {draft : Draft} {input : Option Int64} {json : Bool}
    {pending : PendingInput} (h : Settles draft (.check input json pending)) :
    pending = .none := by
  cases h <;> rfl

theorem Draft.Settles.check_flags {draft : Draft} {input : Option Int64} {json : Bool}
    {pending : PendingInput} (h : Settles draft (.check input json pending)) :
    draft.flags = [.verbose, .help, .json, .input] :=
  h.flags_eq.symm

/-- The words that are no flag to a draft: a number keeps its minus sign where one is expected. -/
inductive OperandWord (draft : Draft) (word : String) : Prop where
  | plain : Word.ofText word = .plain → OperandWord draft word
  | numeric {letters : List Char} : Word.ofText word = .cluster letters →
      draft.expectsNumber = true → looksNumeric letters = true → OperandWord draft word

/-- What one word does to a draft with `asked` requests for verbosity so far. -/
inductive Move (outer asked : Nat) (draft : Draft) : String → Progress → Prop where
  | terminator : Move outer asked draft "--" ⟨outer, min 255 asked, draft, true⟩
  | verbose {word : String} {count : Nat} {settled : Draft} :
      VerboseWord word count → Settles draft settled →
        Move outer asked draft word ⟨outer, min 255 (asked + count), settled, false⟩
  | json {input : Option Int64} : Settles draft (.check input false .none) →
      Move outer asked draft "--json" ⟨outer, min 255 asked, .check input true .none, false⟩
  | awaitInput {input : Option Int64} {json : Bool} : Settles draft (.check input json .none) →
      Move outer asked draft "--input"
        ⟨outer, min 255 asked, .check input json .awaited, false⟩
  | joinedInput {text : String} {n : Int64} {json : Bool} :
      Denotes text n → Settles draft (.check none json .none) →
        Move outer asked draft ("--input=" ++ text)
          ⟨outer, min 255 asked, .check (some n) json .none, false⟩
  | place {word : String} {placed : Draft} :
      OperandWord draft word → draft.place false word = .ok placed →
      Move outer asked draft word ⟨outer, min 255 asked, placed, false⟩

/-! ## Flags in a cluster -/

theorem find_verbose (draft : Draft) :
    draft.flags.find? (fun flag => flag.letter? == some 'v') = some .verbose := by
  cases draft <;> rfl

/-- The other flag with a letter shows help, which ends the reading. -/
theorem act_ne_ok {flag : Flag} {draft : Draft} (hmem : flag ∈ draft.flags)
    (hletter : flag.letter?.isSome = true) (hne : flag ≠ .verbose) (p q : Progress) :
    p.act flag ≠ .ok q := by
  have hhelp : flag = .help := by
    cases draft <;> cases flag <;> simp_all [Draft.flags, Flag.letter?]
  subst hhelp
  intro h
  obtain ⟨settled, -, hstop⟩ := bind_eq_ok_iff.mp h
  cases hstop

theorem act_verbose_eq {draft settled : Draft} (h : Settles draft settled) (outer asked : Nat)
    (terminated : Bool) :
    Progress.act ⟨outer, min 255 asked, draft, terminated⟩ .verbose =
      .ok ⟨outer, min 255 (asked + 1), settled, terminated⟩ := by
  rw [Progress.act, h.settle_eq, ok_bind_eq, ← increase_min]

theorem settledVerbose {settled : Draft} (h : Settles settled settled) (outer : Nat)
    (terminated : Bool) (letters : List Char) (asked : Nat) :
    letters.foldlM (fun s _ => Progress.act s .verbose)
        ⟨outer, min 255 asked, settled, terminated⟩ =
      .ok ⟨outer, min 255 (asked + letters.length), settled, terminated⟩ := by
  induction letters generalizing asked with
  | nil => rfl
  | cons letter rest ih =>
    rw [List.foldlM_cons, act_verbose_eq h, ok_bind_eq, ih, List.length_cons, Nat.add_assoc,
      Nat.add_comm 1]

/-- A cluster settles the draft at its first letter. -/
theorem readCluster_inside {draft : Draft} {letters : List Char} (hne : letters ≠ [])
    {outer asked : Nat} {p : Progress} :
    readCluster draft.flags Progress.act ⟨outer, min 255 asked, draft, false⟩ letters = .ok p ↔
      (∀ c ∈ letters, c = 'v') ∧ ∃ settled, Settles draft settled ∧
        ⟨outer, min 255 (asked + letters.length), settled, false⟩ = p := by
  rw [readCluster_eq_ok_iff (find_verbose draft) fun flag hmem hletter hother =>
    act_ne_ok hmem hletter hother]
  refine and_congr_right fun _ => ?_
  cases letters with
  | nil => exact absurd rfl hne
  | cons letter rest =>
    rw [List.foldlM_cons]
    constructor
    · intro h
      obtain ⟨next, hact, hrest⟩ := bind_eq_ok_iff.mp h
      obtain ⟨settled, hsettle, -⟩ := bind_eq_ok_iff.mp hact
      have hsettles := Draft.settles_of_settle hsettle
      rw [act_verbose_eq hsettles] at hact
      cases hact
      rw [settledVerbose hsettles.settled] at hrest
      refine ⟨settled, hsettles, ?_⟩
      rw [List.length_cons, Nat.add_comm rest.length, ← Nat.add_assoc]
      exact Except.ok.inj hrest
    · rintro ⟨settled, hsettles, rfl⟩
      rw [act_verbose_eq hsettles, ok_bind_eq, settledVerbose hsettles.settled, List.length_cons,
        Nat.add_assoc, Nat.add_comm 1]

/-! ## Flags with two dashes -/

theorem move_of_act {outer asked : Nat} {draft : Draft} {flag : Flag} {p : Progress}
    (hflag : flag ∈ draft.flags)
    (h : Progress.act ⟨outer, min 255 asked, draft, false⟩ flag = .ok p) :
    Move outer asked draft flag.spelling p := by
  obtain ⟨settled, hsettle, hact⟩ := bind_eq_ok_iff.mp h
  have hsettles := Draft.settles_of_settle hsettle
  cases flag with
  | verbose =>
    cases hact
    simp only [increase_min]
    exact .verbose .long hsettles
  | help => cases hact
  | version =>
    obtain ⟨switched, hswitch, -⟩ := bind_eq_ok_iff.mp hact
    cases settled <;> cases hswitch
  | json =>
    obtain ⟨switched, hswitch, hp⟩ := bind_eq_ok_iff.mp hact
    cases hp
    cases settled with
    | check input json pending =>
      obtain rfl := hsettles.pending_eq
      cases json with
      | false =>
        cases hswitch
        exact .json hsettles
      | true => cases hswitch
    | eval operands => cases hswitch
    | nothing => cases hswitch
  | input =>
    obtain ⟨switched, hswitch, hp⟩ := bind_eq_ok_iff.mp hact
    cases hp
    cases settled with
    | check input json pending =>
      obtain rfl := hsettles.pending_eq
      cases hswitch
      exact .awaitInput hsettles
    | eval operands => cases hswitch
    | nothing => cases hswitch

theorem move_of_give {outer asked : Nat} {draft : Draft} {flag : Flag} {text : String}
    {p : Progress}
    (h : Progress.give ⟨outer, min 255 asked, draft, false⟩ flag text = .ok p) :
    Move outer asked draft (flag.spelling ++ "=" ++ text) p := by
  cases flag with
  | input =>
    obtain ⟨settled, hsettle, hrest⟩ := bind_eq_ok_iff.mp h
    obtain ⟨assigned, hassign, hp⟩ := bind_eq_ok_iff.mp hrest
    cases hp
    have hsettles := Draft.settles_of_settle hsettle
    cases settled with
    | check input json pending =>
      obtain rfl := hsettles.pending_eq
      obtain ⟨rfl, n, hdenotes, rfl⟩ := Draft.assignInput_eq_ok_iff.mp hassign
      exact .joinedInput hdenotes hsettles
    | eval operands => cases hassign
    | nothing => cases hassign
  | verbose => cases h
  | help => cases h
  | version => cases h
  | json => cases h

/-! ## Any word -/

theorem move_of_place {outer asked : Nat} {draft : Draft} {word : String} {p : Progress}
    (hword : OperandWord draft word)
    (h : Progress.place ⟨outer, min 255 asked, draft, false⟩ word = .ok p) :
    Move outer asked draft word p := by
  obtain ⟨placed, hplace, hp⟩ := bind_eq_ok_iff.mp h
  cases hp
  exact .place hword hplace

theorem move_of_next {outer asked : Nat} {draft : Draft} {word : String} {p : Progress}
    (h : Progress.next ⟨outer, min 255 asked, draft, false⟩ word = .ok p) :
    Move outer asked draft word p := by
  rw [Progress.next, if_neg Bool.false_ne_true] at h
  cases hword : Word.ofText word with
  | terminator =>
    rw [hword] at h
    cases h
    rw [Word.eq_terminator_of_ofText hword]
    exact .terminator
  | long name value =>
    simp only [hword] at h
    obtain ⟨flag, hflag, rfl, ⟨rfl, hact⟩ | ⟨text, rfl, hgive⟩⟩ := readLong_eq_ok h
    · rw [Word.eq_name_of_ofText hword]
      exact move_of_act hflag hact
    · rw [Word.eq_joined_of_ofText hword]
      exact move_of_give hgive
  | cluster letters =>
    simp only [hword] at h
    split at h
    · rename_i hnumeric
      obtain ⟨hexpects, hlooks⟩ := Bool.and_eq_true_iff.mp hnumeric
      exact move_of_place (.numeric hword hexpects hlooks) h
    · obtain ⟨rfl, hne⟩ := Word.eq_cluster_of_ofText hword
      obtain ⟨hall, settled, hsettles, rfl⟩ := (readCluster_inside hne).mp h
      exact .verbose (verboseWord_of_all hne hall) hsettles
  | plain =>
    simp only [hword] at h
    exact move_of_place (.plain hword) h

theorem find_name {draft : Draft} {flag : Flag} (h : flag ∈ draft.flags) :
    draft.flags.find? (fun other => other.name == flag.name) = some flag := by
  cases draft <;> cases flag <;> first | rfl | simp [Draft.flags] at h

theorem verbose_mem_flags (draft : Draft) : .verbose ∈ draft.flags := by
  cases draft <;> simp [Draft.flags]

/-- A flag that is known and stands alone acts. -/
theorem next_spelling {draft : Draft} {flag : Flag} (h : flag ∈ draft.flags) (outer inner : Nat) :
    Progress.next ⟨outer, inner, draft, false⟩ flag.spelling =
      Progress.act ⟨outer, inner, draft, false⟩ flag := by
  have hword : Word.ofText flag.spelling = .long flag.name none := by
    cases flag <;> rfl
  rw [Progress.next, if_neg Bool.false_ne_true, hword]
  simp only [readLong, find_name h]

/-- Letters that ask for verbosity are not taken for a number. -/
theorem looksNumeric_verbose (more : Nat) :
    looksNumeric (List.replicate (more + 1) 'v') = false :=
  rfl

theorem Move.next_eq {outer asked : Nat} {draft : Draft} {word : String} {p : Progress}
    (h : Move outer asked draft word p) :
    Progress.next ⟨outer, min 255 asked, draft, false⟩ word = .ok p := by
  cases h with
  | terminator => rfl
  | verbose hword hsettles =>
    cases hword with
    | long =>
      exact (next_spelling (verbose_mem_flags draft) outer _).trans
        (act_verbose_eq hsettles outer asked false)
    | cluster more =>
      rw [Progress.next, if_neg Bool.false_ne_true, Word.ofText_verboseCluster]
      simp only [looksNumeric_verbose, Bool.and_false, Bool.false_eq_true, if_false]
      refine (readCluster_inside (by simp)).mpr ⟨?_, _, hsettles, ?_⟩
      · intro c hc
        exact List.eq_of_mem_replicate hc
      · rw [List.length_replicate]
  | json hsettles =>
    have hknown : .json ∈ draft.flags := by
      simp [hsettles.check_flags]
    refine (next_spelling hknown outer _).trans ?_
    rw [Progress.act, hsettles.settle_eq]
    rfl
  | awaitInput hsettles =>
    have hknown : .input ∈ draft.flags := by
      simp [hsettles.check_flags]
    refine (next_spelling hknown outer _).trans ?_
    rw [Progress.act, hsettles.settle_eq]
    rfl
  | joinedInput hdenotes hsettles =>
    have hknown : .input ∈ draft.flags := by
      simp [hsettles.check_flags]
    have hfind : draft.flags.find? (fun other => other.name == "input") = some .input :=
      find_name hknown
    rw [Progress.next, if_neg Bool.false_ne_true, Word.ofText_joinedInput]
    simp only [readLong, hfind, Progress.give, hsettles.settle_eq, ok_bind_eq, Draft.assign]
    rw [Draft.assignInput_eq_ok_iff.mpr ⟨rfl, _, hdenotes, rfl⟩]
    rfl
  | place hword hplace =>
    have hnext : Progress.next ⟨outer, min 255 asked, draft, false⟩ word =
        Progress.place ⟨outer, min 255 asked, draft, false⟩ word := by
      rw [Progress.next, if_neg Bool.false_ne_true]
      cases hword with
      | plain hplain => rw [hplain]
      | numeric hcluster hexpects hlooks =>
        simp only [hcluster, hexpects, hlooks, Bool.and_self, if_true]
    rw [hnext, Progress.place, hplace]
    rfl

/-- The words inside a subcommand that let the reading go on, and how. -/
theorem next_eq_ok_iff {outer asked : Nat} {draft : Draft} {word : String} {p : Progress} :
    Progress.next ⟨outer, min 255 asked, draft, false⟩ word = .ok p ↔
      Move outer asked draft word p :=
  ⟨move_of_next, Move.next_eq⟩

/-! ## Operands -/

theorem operandWord_strategy (draft : Draft) (strategy : Strategy) :
    OperandWord draft strategy.name := by
  refine .plain ?_
  cases strategy <;> rfl

theorem looksNumeric_of_digits {cs : List Char} {value : Nat} (h : Numeral.Digits cs value) :
    looksNumeric cs = true := by
  rw [looksNumeric, List.takeWhile_eq_self_iff.mpr h.isDigit,
    List.dropWhile_eq_nil_iff.mpr h.isDigit]
  cases cs with
  | nil => exact absurd rfl h.ne_nil
  | cons c rest => rfl

/-- A numeral is no flag where a number is expected, whatever its sign. -/
theorem operandWord_denotes {draft : Draft} {text : String} {n : Int64}
    (hexpects : draft.expectsNumber = true) (h : Denotes text n) : OperandWord draft text := by
  rw [Denotes] at h
  generalize n.toInt = z at h
  generalize htext : text.toList = cs at h
  cases h with
  | unsigned hdigits =>
    refine .plain ?_
    rw [Word.ofText, htext]
    cases cs with
    | nil => exact absurd rfl hdigits.ne_nil
    | cons c rest => exact Word.ofChars_of_head_ne rest hdigits.head_ne_dash
  | plus hdigits =>
    refine .plain ?_
    rw [Word.ofText, htext]
    exact Word.ofChars_of_head_ne _ (by decide)
  | minus hdigits =>
    refine .numeric ?_ hexpects (looksNumeric_of_digits hdigits)
    rw [Word.ofText, htext]
    rename_i cs value
    cases cs with
    | nil => exact absurd rfl hdigits.ne_nil
    | cons c rest => exact Word.ofChars_dash rest hdigits.head_ne_dash

end FactorialCheck.CommandLine
