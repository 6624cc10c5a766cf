import FactorialCheck.Proofs.CommandLine.Words

/-!
# What one word does

Every way in which the reading of a command line goes on with one more word, at
the top level and inside a subcommand.
-/

namespace FactorialCheck.CommandLine

/-! ## Counting requests for verbosity -/

theorem increase_min (asked : Nat) : increase (min 255 asked) = min 255 (asked + 1) := by
  rw [increase]
  omega

/-- A cluster whose letters all ask for verbosity is such a request. -/
theorem verboseWord_of_all {letters : List Char} (hne : letters ≠ [])
    (h : ∀ c ∈ letters, c = 'v') :
    VerboseWord (String.ofList ('-' :: letters)) letters.length := by
  obtain ⟨more, hmore⟩ : ∃ more, letters.length = more + 1 :=
    Nat.exists_eq_succ_of_ne_zero (fun hzero => hne (List.length_eq_zero_iff.mp hzero))
  have hletters := List.eq_replicate_of_mem h
  rw [hmore] at hletters ⊢
  rw [hletters]
  exact .cluster more

section Flags

variable {σ : Type} {known : List Flag} {act : σ → Flag → Except Stop σ}

/-- Only a letter that asks for verbosity lets the reading go on. -/
theorem readLetter_eq_ok_iff
    (hverbose : known.find? (fun flag => flag.letter? == some 'v') = some .verbose)
    (hother : ∀ flag ∈ known, flag.letter?.isSome = true → flag ≠ .verbose →
      ∀ s t, act s flag ≠ .ok t) (s t : σ) (letter : Char) :
    readLetter known act s letter = .ok t ↔ letter = 'v' ∧ act s .verbose = .ok t := by
  by_cases hletter : letter = 'v'
  · subst hletter
    rw [readLetter, hverbose]
    simp
  · simp only [hletter, false_and, iff_false]
    rw [readLetter]
    cases hfind : known.find? (fun flag => flag.letter? == some letter) with
    | none => exact fun h => nomatch h
    | some flag =>
      have hsome : flag.letter? = some letter := by
        simpa using List.find?_some hfind
      refine hother flag (List.mem_of_find?_eq_some hfind) (by rw [hsome]; rfl) ?_ s t
      rintro rfl
      exact hletter (Option.some.inj hsome).symm

theorem readCluster_eq_ok_iff
    (hverbose : known.find? (fun flag => flag.letter? == some 'v') = some .verbose)
    (hother : ∀ flag ∈ known, flag.letter?.isSome = true → flag ≠ .verbose →
      ∀ s t, act s flag ≠ .ok t) (s t : σ) (letters : List Char) :
    readCluster known act s letters = .ok t ↔
      (∀ c ∈ letters, c = 'v') ∧
        letters.foldlM (fun s _ => act s .verbose) s = .ok t := by
  rw [readCluster]
  induction letters generalizing s with
  | nil => simp
  | cons letter rest ih =>
    simp only [List.foldlM_cons, bind_eq_ok_iff, ih, List.forall_mem_cons,
      readLetter_eq_ok_iff hverbose hother]
    constructor
    · rintro ⟨next, ⟨hletter, hact⟩, hall, hrest⟩
      exact ⟨⟨hletter, hall⟩, next, hact, hrest⟩
    · rintro ⟨⟨hletter, hall⟩, next, hact, hrest⟩
      exact ⟨next, ⟨hletter, hact⟩, hall, hrest⟩

/-- Only a known name is read, without a value if the flag takes none. -/
theorem readLong_eq_ok {give : σ → Flag → String → Except Stop σ} {s t : σ} {name : String}
    {value : Option String} (h : readLong known act give s name value = .ok t) :
    ∃ flag ∈ known, flag.name = name ∧
      (value = none ∧ act s flag = .ok t ∨
        ∃ text, value = some text ∧ give s flag text = .ok t) := by
  rw [readLong] at h
  cases hfind : known.find? (fun flag => flag.name == name) with
  | none =>
    rw [hfind] at h
    cases h
  | some flag =>
    rw [hfind] at h
    have hname : flag.name = name := by
      simpa using List.find?_some hfind
    refine ⟨flag, List.mem_of_find?_eq_some hfind, hname, ?_⟩
    cases value with
    | none => exact .inl ⟨rfl, h⟩
    | some text => exact .inr ⟨text, rfl, h⟩

end Flags

/-! ## Before any subcommand -/

theorem programVerbose (letters : List Char) (asked : Nat) :
    letters.foldlM (fun s _ => programAct s .verbose) (min 255 asked) =
      .ok (min 255 (asked + letters.length)) := by
  induction letters generalizing asked with
  | nil => rfl
  | cons letter rest ih =>
    rw [List.foldlM_cons, programAct, ok_bind_eq, increase_min, ih, List.length_cons,
      Nat.add_assoc, Nat.add_comm 1]

theorem readCluster_program (letters : List Char) (asked verbose : Nat) :
    readCluster programFlags programAct (min 255 asked) letters = .ok verbose ↔
      (∀ c ∈ letters, c = 'v') ∧ min 255 (asked + letters.length) = verbose := by
  rw [readCluster_eq_ok_iff rfl, programVerbose, Except.ok.injEq]
  intro flag hmem hletter hne s t h
  cases flag <;> first | exact hne rfl | cases h

/-- What one word does before any subcommand. -/
inductive ProgramMove (asked : Nat) : String → State → Prop where
  | verbose {word : String} {count : Nat} :
      VerboseWord word count → ProgramMove asked word (.program (min 255 (asked + count)))
  | terminator : ProgramMove asked "--" (.ended (min 255 asked))
  | subcommand (subcommand : Subcommand) :
      ProgramMove asked subcommand.name (.enter (min 255 asked) subcommand)

theorem Subcommand.ofName?_eq_some {word : String} {subcommand : Subcommand}
    (h : ofName? word = some subcommand) : word = subcommand.name := by
  have hname := List.find?_some h
  exact (beq_iff_eq.mp hname).symm

theorem programMove_of_next {asked : Nat} {word : String} {s : State}
    (h : State.next (.program (min 255 asked)) word = .ok s) : ProgramMove asked word s := by
  rw [State.next, State.nextProgram] at h
  cases hword : Word.ofText word with
  | terminator =>
    rw [hword] at h
    cases h
    rw [Word.eq_terminator_of_ofText hword]
    exact .terminator
  | long name value =>
    simp only [hword] at h
    obtain ⟨verbose, hread, rfl⟩ := map_eq_ok_iff.mp h
    obtain ⟨flag, hflag, rfl, ⟨rfl, hact⟩ | ⟨text, -, hgive⟩⟩ := readLong_eq_ok hread
    · cases flag with
      | verbose =>
        cases hact
        rw [Word.eq_name_of_ofText hword, increase_min]
        exact .verbose .long
      | help => cases hact
      | version => cases hact
      | json => cases hact
      | input => cases hact
    · cases hgive
  | cluster letters =>
    simp only [hword] at h
    obtain ⟨verbose, hread, rfl⟩ := map_eq_ok_iff.mp h
    obtain ⟨hall, rfl⟩ := (readCluster_program letters asked verbose).mp hread
    obtain ⟨rfl, hne⟩ := Word.eq_cluster_of_ofText hword
    exact .verbose (verboseWord_of_all hne hall)
  | plain =>
    simp only [hword] at h
    cases hname : Subcommand.ofName? word with
    | none =>
      rw [hname] at h
      cases h
    | some subcommand =>
      rw [hname] at h
      cases h
      rw [Subcommand.ofName?_eq_some hname]
      exact .subcommand subcommand

theorem ProgramMove.next_eq {asked : Nat} {word : String} {s : State}
    (h : ProgramMove asked word s) : State.next (.program (min 255 asked)) word = .ok s := by
  cases h with
  | verbose hword =>
    cases hword with
    | long =>
      rw [← increase_min]
      rfl
    | cluster more =>
      rw [State.next, State.nextProgram, Word.ofText_verboseCluster]
      refine map_eq_ok_iff.mpr ⟨_, (readCluster_program _ asked _).mpr ⟨?_, rfl⟩, ?_⟩
      · intro c hc
        exact List.eq_of_mem_replicate hc
      · rw [List.length_replicate]
  | terminator => rfl
  | subcommand subcommand => cases subcommand <;> rfl

end FactorialCheck.CommandLine
