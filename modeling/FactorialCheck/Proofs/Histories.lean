import FactorialCheck.Proofs.Answers
import FactorialCheck.Proofs.Loading
import FactorialCheck.Session

/-!
# Histories

A load may leave the default behind in the environment, yet no later load answers
differently for it: what it answers is decided by the settings and unsettings of
the input variable before it. The other variables come and go as they are set and
unset, and those that stay keep their order.
-/

namespace FactorialCheck

namespace Step

variable {name : String}

/-- What a step says about a variable: its value from now on, or that it has none. -/
def assigns? (name : String) : Step → Option (Option String)
  | .set other value => if other = name then some (some value) else none
  | .unset other => if other = name then some none else none
  | _ => none

/-- What the last step about a variable says. -/
def assigned? (name : String) (steps : List Step) : Option String :=
  (steps.filterMap (assigns? name)).getLast?.join

theorem assigned?_concat (steps : List Step) (step : Step) :
    assigned? name (steps ++ [step]) = (step.assigns? name).getD (assigned? name steps) := by
  rw [assigned?, List.filterMap_append, List.getLast?_append, assigned?]
  cases h : step.assigns? name with
  | none => simp [h]
  | some value => simp [h]

theorem ne_unset_of_assigns? {step : Step} (h : step.assigns? name = none) :
    step ≠ .unset name := by
  intro heq
  rw [heq, assigns?, if_pos rfl] at h
  cases h

/-- A load says nothing about a variable. -/
theorem assigned?_filter_load (steps : List Step) :
    assigned? name (steps.filter fun step => step ≠ .load) = assigned? name steps := by
  have hload : (fun step : Step =>
      if decide (step ≠ .load) = true then step.assigns? name else none) = assigns? name := by
    funext step
    cases step <;> rfl
  rw [assigned?, List.filterMap_filter, hload, assigned?]

end Step

/-! ## One step -/

/-- What a step can do to the environment. -/
inductive Leaves (env : Environment) : Step → Environment → Prop
  | set (name value : String) : Leaves env (.set name value) (env.set name value)
  | unset (name : String) : Leaves env (.unset name) (env.unset name)
  | same {step : Step} (h : ∀ name, step.assigns? name = none) : Leaves env step env
  | installed {step : Step} (h : ∀ name, step.assigns? name = none) :
      Leaves env step (Configuration.install env)

namespace Program

theorem perform_environment (env : Environment) (command : CommandLine.Command) :
    (perform env command).2 = env ∨ (perform env command).2 = Configuration.install env := by
  cases command with
  | check input json =>
    cases input with
    | some n => exact .inl rfl
    | none => exact .inr rfl
  | eval strategy n => exact .inl rfl
  | nothing => exact .inl rfl

theorem run_environment (stamp : String) (words : List String) (env : Environment) :
    (run stamp words env).2 = env ∨ (run stamp words env).2 = Configuration.install env := by
  cases hwords : CommandLine.parse words with
  | error stop =>
    rw [run_of_stop hwords]
    exact .inl rfl
  | ok invocation =>
    cases hfilter : filterOf invocation.verbose env with
    | error halt =>
      rw [run_of_halt hwords hfilter]
      exact .inl rfl
    | ok filter =>
      rw [run_of_filter hwords hfilter]
      exact perform_environment ..

end Program

namespace Session

variable (stamp : String) (session : Session)

theorem answer_load :
    (session.step stamp .load).1 = .loaded (Configuration.load session.environment).1 := by
  unfold Session.step
  cases Configuration.load session.environment with
  | mk loaded environment => rfl

/-- A configuration that is no input leaves the default behind just the same. -/
theorem environment_announceConfigured :
    (session.step stamp .announceConfigured).2.environment =
      Configuration.install session.environment := by
  have hinstalled : (Configuration.load session.environment).2 =
      Configuration.install session.environment := rfl
  rw [← hinstalled]
  unfold Session.step
  cases Configuration.load session.environment with
  | mk loaded environment =>
    cases loaded with
    | error error => rfl
    | ok configuration => rfl

theorem leaves_step (step : Step) :
    Leaves session.environment step (session.step stamp step).2.environment := by
  cases step with
  | set name value => exact .set name value
  | unset name => exact .unset name
  | load => exact .installed fun _ => rfl
  | run words =>
    have hrun : (session.step stamp (.run words)).2.environment =
        (Program.run stamp words session.environment).2 := rfl
    rcases Program.run_environment stamp words session.environment with h | h
    · rw [hrun, h]
      exact .same fun _ => rfl
    · rw [hrun, h]
      exact .installed fun _ => rfl
  | announce n => exact .same fun _ => rfl
  | announceConfigured =>
    rw [environment_announceConfigured]
    exact .installed fun _ => rfl
  | announceNothing => exact .same fun _ => rfl
  | evaluate strategy n => exact .same fun _ => rfl

/-! ## Runs of steps -/

/-- The session after the steps. -/
def after (steps : List Step) : Session :=
  steps.foldl (fun session step => (session.step stamp step).2) session

theorem after_append (first second : List Step) :
    session.after stamp (first ++ second) = (session.after stamp first).after stamp second :=
  List.foldl_append

/-- Each answer is that of the session after the steps before. -/
theorem getElem?_steps {steps : List Step} {i : Nat} {step : Step} (h : steps[i]? = some step) :
    (session.steps stamp steps)[i]? =
      some ((session.after stamp (steps.take i)).step stamp step) := by
  induction steps generalizing session i with
  | nil => cases h
  | cons first rest ih =>
    cases i with
    | zero =>
      cases h
      rfl
    | succ i => exact ih (session.step stamp first).2 h

end Session

namespace Configuration

/-! ## What stands after the steps -/

/-- A step that sets no other spelling of the input variable. -/
def Exact (step : Step) : Prop :=
  ∀ name value, step = .set name value → spellsInput name = true → name = "FACT_DRIVER_INPUT"

theorem Stands.step {value : Option String} {env env' : Environment} {step : Step}
    (h : Stands value env) (hleaves : Leaves env step env') (hexact : Exact step) :
    Stands ((step.assigns? "FACT_DRIVER_INPUT").getD value) env' := by
  cases hleaves with
  | set name text =>
    by_cases hname : name = "FACT_DRIVER_INPUT"
    · subst hname
      exact h.set text
    · have hspells : spellsInput name = false :=
        Bool.eq_false_iff.mpr fun hspells => hname (hexact name text rfl hspells)
      rw [Step.assigns?, if_neg hname]
      exact h.set_of_not text hspells
  | unset name =>
    by_cases hname : name = "FACT_DRIVER_INPUT"
    · subst hname
      exact h.unset
    · rw [Step.assigns?, if_neg hname]
      exact h.unset_of_ne hname
  | same hnone =>
    rw [hnone]
    exact h
  | installed hnone =>
    rw [hnone]
    exact h.install

/-- The history so far says what stands; the induction moves one step into it at a time. -/
theorem stands_after (stamp : String) (session : Session) {history steps : List Step}
    (h : Stands (Step.assigned? "FACT_DRIVER_INPUT" history) session.environment)
    (hexact : ∀ step ∈ steps, Exact step) :
    Stands (Step.assigned? "FACT_DRIVER_INPUT" (history ++ steps))
      (session.after stamp steps).environment := by
  induction steps generalizing session history with
  | nil =>
    rw [List.append_nil]
    exact h
  | cons step rest ih =>
    have hstep := h.step (session.leaves_step stamp step) (hexact step List.mem_cons_self)
    rw [← Step.assigned?_concat] at hstep
    have hrest := ih (session.step stamp step).2 hstep fun other hother =>
      hexact other (List.mem_cons_of_mem step hother)
    rw [List.append_assoc] at hrest
    exact hrest

end Configuration

/-! ## The order of the variables -/

theorem Environment.names_prefix_set (env : Environment) (name value : String) :
    env.names <+: (env.set name value).names := by
  by_cases hmem : name ∈ env.names
  · have hsame := env.names_set_of_mem value hmem
    exact hsame ▸ List.prefix_rfl
  · rw [env.names_set_of_not_mem value hmem]
    exact List.prefix_append ..

theorem Configuration.names_prefix_install (env : Environment) :
    env.names <+: (install env).names := by
  by_cases hmem : "FACT_DRIVER_INPUT" ∈ env.names
  · have hsame : (install env).names = env.names :=
      congrArg Environment.names (install_of_mem hmem)
    exact hsame ▸ List.prefix_rfl
  · rw [install_of_not_mem hmem]
    exact env.names_prefix_set ..

/-- The names that the steps do not unset. -/
def Step.spared (steps : List Step) (names : List String) : List String :=
  names.filter fun name => .unset name ∉ steps

/-- What a step does not unset keeps its order, and what it adds comes last. -/
theorem Leaves.spared_isPrefix {env env' : Environment} {step : Step} (h : Leaves env step env') :
    Step.spared [step] env.names <+: env'.names := by
  have hall (hquiet : ∀ name, step ≠ .unset name) : Step.spared [step] env.names = env.names := by
    apply List.filter_eq_self.mpr
    intro name _
    have hne : Step.unset name ∉ [step] := by
      rw [List.mem_singleton]
      exact (hquiet name).symm
    exact decide_eq_true hne
  cases h with
  | set name value =>
    rw [hall (fun _ => Step.noConfusion)]
    exact env.names_prefix_set name value
  | unset name =>
    have hsame : (env.unset name).names = Step.spared [.unset name] env.names := by
      rw [Environment.names_unset, Step.spared]
      apply List.filter_congr
      intro other _
      simp
    exact hsame ▸ List.prefix_rfl
  | same hnone =>
    have hsame := hall fun name => Step.ne_unset_of_assigns? (hnone name)
    exact hsame.symm ▸ List.prefix_rfl
  | installed hnone =>
    rw [hall fun name => Step.ne_unset_of_assigns? (hnone name)]
    exact Configuration.names_prefix_install env

theorem Step.spared_cons (step : Step) (rest : List Step) (names : List String) :
    Step.spared (step :: rest) names = Step.spared rest (Step.spared [step] names) := by
  rw [spared, spared, spared, List.filter_filter]
  apply List.filter_congr
  intro name _
  simp [Bool.and_comm]

theorem Session.spared_isPrefix_after (stamp : String) (session : Session) (steps : List Step) :
    Step.spared steps session.environment.names <+:
      (session.after stamp steps).environment.names := by
  induction steps generalizing session with
  | nil =>
    have hall : Step.spared [] session.environment.names = session.environment.names :=
      List.filter_eq_self.mpr fun _ _ => rfl
    exact hall.symm ▸ List.prefix_rfl
  | cons step rest ih =>
    have hstep := (session.leaves_step stamp step).spared_isPrefix
    have hrest := ih (session.step stamp step).2
    rw [Step.spared_cons]
    exact (hstep.filter _).trans hrest

/-! ## Loads -/

namespace Session

section Loads

variable {start : Session} (hstart : Configuration.spellings start.environment = [])
variable (stamp : String) {steps : List Step}
include hstart

/-- What a load answers, by the steps before it. -/
theorem getElem?_steps_of_load {i : Nat} (hload : steps[i]? = some .load)
    (hexact : ∀ step ∈ steps.take i, Configuration.Exact step) :
    ((start.steps stamp steps)[i]?.map Prod.fst) =
      some (.loaded (Configuration.ofValue
        (Step.assigned? "FACT_DRIVER_INPUT" (steps.take i)))) := by
  have hfirst : Configuration.Stands (Step.assigned? "FACT_DRIVER_INPUT" []) start.environment :=
    .inr ⟨rfl, hstart⟩
  have hstands := Configuration.stands_after stamp start hfirst hexact
  rw [List.nil_append] at hstands
  rw [start.getElem?_steps stamp hload, Option.map_some, answer_load, hstands.load]

/-- Loads in between make no difference. -/
theorem getElem?_steps_of_load_congr {other : List Step} {i j : Nat}
    (hload : steps[i]? = some .load) (hother : other[j]? = some .load)
    (hexact : ∀ step ∈ steps.take i, Configuration.Exact step)
    (hsame : (other.take j).filter (fun step => step ≠ .load) =
      (steps.take i).filter fun step => step ≠ .load) :
    (start.steps stamp other)[j]?.map Prod.fst = (start.steps stamp steps)[i]?.map Prod.fst := by
  have hotherExact : ∀ step ∈ other.take j, Configuration.Exact step := by
    intro step hmem name value heq
    have hkept : step ∈ (steps.take i).filter fun step => step ≠ .load := by
      rw [← hsame, heq, List.mem_filter]
      exact ⟨heq ▸ hmem, rfl⟩
    exact hexact step (List.mem_filter.mp hkept).1 name value heq
  rw [getElem?_steps_of_load hstart stamp hload hexact,
    getElem?_steps_of_load hstart stamp hother hotherExact,
    ← Step.assigned?_filter_load (other.take j), hsame, Step.assigned?_filter_load]

end Loads

/--
Any steps from an environment without a spelling of `FACT_DRIVER_INPUT`, where only
the exact spelling is ever set. Each load answers what its history says: the reading
of the value that was set last, if the variable was not unset since, and 5
otherwise. With loads put in or left out before it, it answers the same. All the
while the names are distinct, and the variables that are not unset in between stay
in their order, before those that are added.
-/
theorem loads_follow_history (stamp : String) (start : Session) (steps : List Step)
    (hstart : ∀ v ∈ start.environment.toList, Configuration.spellsInput v.name = false)
    (hset : ∀ name value, .set name value ∈ steps →
      Configuration.spellsInput name = true → name = "FACT_DRIVER_INPUT") :
    (∀ i : Nat, steps[i]? = some .load →
      (start.steps stamp steps)[i]?.map Prod.fst = some (.loaded
        (Configuration.ofValue (Step.assigned? "FACT_DRIVER_INPUT" (steps.take i))))) ∧
    (∀ (other : List Step) (i j : Nat),
      steps[i]? = some .load → other[j]? = some .load →
      (other.take j).filter (fun step => step ≠ .load) =
        (steps.take i).filter (fun step => step ≠ .load) →
      (start.steps stamp other)[j]?.map Prod.fst =
        (start.steps stamp steps)[i]?.map Prod.fst) ∧
    (∀ i k : Nat,
      (start.after stamp (steps.take (i + k))).environment.names.Nodup ∧
      Step.spared ((steps.drop i).take k) (start.after stamp (steps.take i)).environment.names <+:
        (start.after stamp (steps.take (i + k))).environment.names) := by
  have hnone := Configuration.spellings_eq_nil_iff.mpr hstart
  have hexact (i : Nat) : ∀ step ∈ steps.take i, Configuration.Exact step := by
    intro step hmem name value heq
    exact hset name value (heq ▸ List.mem_of_mem_take hmem)
  refine ⟨?_, ?_, ?_⟩
  · intro i hload
    exact getElem?_steps_of_load hnone stamp hload (hexact i)
  · intro other i j hload hother hsame
    exact getElem?_steps_of_load_congr hnone stamp hload hother (hexact i) hsame
  · intro i k
    refine ⟨(start.after stamp (steps.take (i + k))).environment.distinct, ?_⟩
    rw [List.take_add, after_append]
    exact spared_isPrefix_after ..

/--
The default that the first load leaves behind is set over, a load fails, and what
it failed at is unset again. Without the first two loads the last answers the same.
-/
theorem loads_follow_failed_load :
    let start := Session.start .unlimited
    let steps : List Step :=
      [.load, .set "PATH" "/bin", .set "FACT_DRIVER_INPUT" "seven", .load,
        .unset "FACT_DRIVER_INPUT", .load, .set "FACT_DRIVER_INPUT" "+07", .load]
    let fewer : List Step :=
      [.set "PATH" "/bin", .set "FACT_DRIVER_INPUT" "seven", .unset "FACT_DRIVER_INPUT",
        .load, .set "FACT_DRIVER_INPUT" "+07", .load]
    (∀ v ∈ start.environment.toList, Configuration.spellsInput v.name = false) ∧
    (∀ name value, .set name value ∈ steps →
      Configuration.spellsInput name = true → name = "FACT_DRIVER_INPUT") ∧
    (start.steps "" steps)[3]?.map Prod.fst = some (.loaded (.error ⟨"seven"⟩)) ∧
    (start.steps "" steps)[5]?.map Prod.fst = some (.loaded (.ok ⟨5⟩)) ∧
    (start.steps "" steps)[7]?.map Prod.fst = some (.loaded (.ok ⟨7⟩)) ∧
    (start.steps "" fewer)[5]?.map Prod.fst = (start.steps "" steps)[7]?.map Prod.fst ∧
    ["PATH"] <+: (start.after "" (steps.take 7)).environment.names := by
  intro start steps fewer
  have hstart : ∀ v ∈ start.environment.toList, Configuration.spellsInput v.name = false :=
    fun v hv => absurd hv List.not_mem_nil
  have hset : ∀ name value, .set name value ∈ steps →
      Configuration.spellsInput name = true → name = "FACT_DRIVER_INPUT" := by
    intro name value hmem hspells
    simp only [steps, List.mem_cons, List.not_mem_nil, reduceCtorEq, Step.set.injEq, or_false,
      false_or] at hmem
    rcases hmem with ⟨rfl, -⟩ | ⟨rfl, -⟩ | ⟨rfl, -⟩
    · exact absurd hspells (by decide)
    · rfl
    · rfl
  obtain ⟨hanswers, hloads, hnames⟩ := loads_follow_history "" start steps hstart hset
  refine ⟨hstart, hset, hanswers 3 rfl, hanswers 5 rfl, hanswers 7 rfl,
    hloads fewer 7 5 rfl rfl rfl, ?_⟩
  exact (hnames 4 3).2

end Session

end FactorialCheck
