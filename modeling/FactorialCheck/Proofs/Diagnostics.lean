import FactorialCheck.Proofs.InputLanguage
import FactorialCheck.Proofs.Quotations
import FactorialCheck.Proofs.Stages

/-!
# What is told of a refused input

The message about a refused input holds no control character, whatever the input holds,
and the input can be read back from it. A run tells it in five lines.
-/

namespace FactorialCheck

/-! ## Plain texts -/

/-- A text without the control characters of ASCII. -/
def PlainText (text : String) : Prop :=
  ∀ c ∈ text.toList, ¬ Quoted.IsControl c

instance (text : String) : Decidable (PlainText text) :=
  List.decidableBAll _ text.toList

theorem PlainText.append {a b : String} (ha : PlainText a) (hb : PlainText b) :
    PlainText (a ++ b) := by
  intro c hc
  rw [String.toList_append, List.mem_append] at hc
  rcases hc with hc | hc
  · exact ha c hc
  · exact hb c hc

theorem plainText_quote (text : String) : PlainText (Quoted.quote text) :=
  fun _ => Quoted.not_isControl_of_mem_quote

theorem PlainText.newline_not_mem {text : String} (h : PlainText text) : '\n' ∉ text.toList :=
  fun hmem => h '\n' hmem (by decide)

/-! ## The message -/

namespace ConfigurationError

variable (error : ConfigurationError)

theorem plainText_reason : PlainText error.reason :=
  .append (.append (by decide) (plainText_quote error.text)) (by decide)

theorem plainText_message : PlainText error.message :=
  .append (by decide) error.plainText_reason

theorem toList_message :
    error.message.toList =
      "invalid configuration: invalid type: string ".toList ++ (Quoted.quote error.text).toList
        ++ ", expected an integer for key `input` in the environment".toList := by
  have hmessage : error.message = "invalid configuration: " ++ ("invalid type: string "
    ++ Quoted.quote error.text ++ ", expected an integer for key `input` in the environment") := rfl
  have hopening : "invalid configuration: ".toList ++ "invalid type: string ".toList =
      "invalid configuration: invalid type: string ".toList := by decide
  rw [hmessage, String.toList_append, String.toList_append, String.toList_append,
    ← List.append_assoc, ← List.append_assoc, hopening]

theorem firstQuotation?_message :
    Quoted.firstQuotation? error.message = some error.text :=
  Quoted.firstQuotation?_of_toList (by decide) error.toList_message

end ConfigurationError

namespace Configuration

/-- A load reads a text and refuses it. -/
structure Refuses (env : Environment) (text : String) (error : ConfigurationError) : Prop where
  read : ∃ v, (spellings (install env)).getLast? = some v ∧ v.value = text
  refused : (load env).1 = .error error

/-- What is refused is named as it was read. -/
theorem Refuses.error_eq {env : Environment} {text : String} {error : ConfigurationError}
    (h : Refuses env text error) : error = ⟨text⟩ := by
  obtain ⟨v, hlast, rfl⟩ := h.read
  have hrefused := h.refused
  rw [load_of_last hlast, map_eq_error_iff] at hrefused
  rcases readInput_cases v.value with ⟨n, hsaid⟩ | ⟨-, herror⟩
  · rw [hsaid.readInput_eq] at hrefused
    cases hrefused
  · rw [herror] at hrefused
    exact (Except.error.inj hrefused).symm

end Configuration

/-! ## The lines -/

namespace ProgramError

theorem causeParagraph_of_line (margin : String) {cause : String} (h : '\n' ∉ cause.toList) :
    causeParagraph margin cause = [margin ++ cause] := by
  rw [causeParagraph, pieces_of_not_mem h]
  simp

theorem causeLines_of_lines {first second : String} (hfirst : '\n' ∉ first.toList)
    (hsecond : '\n' ∉ second.toList) :
    causeLines [first, second] = ["", "Caused by:", "    0: " ++ first, "    1: " ++ second] := by
  have hzero : "    " ++ Nat.repr 0 ++ ": " = "    0: " := by decide
  have hone : "    " ++ Nat.repr 1 ++ ": " = "    1: " := by decide
  simp only [causeLines, List.mapIdx_cons, List.mapIdx_nil, Nat.zero_add, hzero, hone,
    causeParagraph_of_line _ hfirst, causeParagraph_of_line _ hsecond, List.flatten_cons,
    List.flatten_nil, List.singleton_append, List.append_nil]

theorem render_configuration (error : ConfigurationError) :
    (ProgramError.configuration error).render =
      unlines ["Error: failed to load driver configuration", "", "Caused by:",
        "    0: " ++ error.message, "    1: " ++ error.reason] := by
  have hfirst : "Error: " ++ "failed to load driver configuration" =
      "Error: failed to load driver configuration" := by decide
  simp only [render, messages, hfirst,
    causeLines_of_lines error.plainText_message.newline_not_mem
      error.plainText_reason.newline_not_mem]

end ProgramError

/-! ## A run -/

/-- The lines in which the refusal of a text is told. -/
def refusalLines (text : String) : List String :=
  let reason := "invalid type: string " ++ Quoted.quote text
    ++ ", expected an integer for key `input` in the environment"
  ["Error: failed to load driver configuration", "", "Caused by:",
    "    0: " ++ ("invalid configuration: " ++ reason), "    1: " ++ reason]

theorem plainText_of_mem_refusalLines {text line : String} (h : line ∈ refusalLines text) :
    PlainText line := by
  have hconstant : ∀ line ∈ ["Error: failed to load driver configuration", "", "Caused by:"],
      PlainText line := by decide
  have hmessage : PlainText ("    0: " ++ (ConfigurationError.mk text).message) :=
    .append (by decide) (ConfigurationError.plainText_message _)
  have hreason : PlainText ("    1: " ++ (ConfigurationError.mk text).reason) :=
    .append (by decide) (ConfigurationError.plainText_reason _)
  have hlines : line ∈ ["Error: failed to load driver configuration", "", "Caused by:"]
      ++ ["    0: " ++ (ConfigurationError.mk text).message,
        "    1: " ++ (ConfigurationError.mk text).reason] := h
  rcases List.mem_append.mp hlines with hline | hline
  · exact hconstant line hline
  · rcases List.mem_cons.mp hline with rfl | hline
    · exact hmessage
    · rwa [List.mem_singleton.mp hline]

open CommandLine in
theorem Configuration.Refuses.run_eq {env : Environment} {text : String}
    {error : ConfigurationError} (h : Refuses env text error) (hvalid : Program.ValidFilter env)
    {words : List String} {invocation : Invocation} {json : Bool}
    (hparse : parse words = .ok invocation)
    (hcommand : invocation.command.getD (.check none false) = .check none json) (stamp : String) :
    (Program.run stamp words env).1 = ⟨.failure, "", unlines (refusalLines text)⟩ := by
  rw [Program.outcome_of_load_error hparse hcommand hvalid h.refused stamp, h.error_eq,
    ProgramError.render_configuration]
  rfl

/--
A refused input can neither garble nor forge what is told of it. Whatever text a load
reads and refuses, the message has no control character of ASCII, and its first
quotation is that text, so that two different texts never have one message. A run that
loads the text ends with exactly five lines on the standard error, without control
characters in any of them, of which the last two hold the same quotation.
-/
theorem refusal_is_told_faithfully :
    (∀ (env : Environment) (text : String) (error : ConfigurationError),
      Configuration.Refuses env text error →
      PlainText error.message ∧ Quoted.firstQuotation? error.message = some text ∧
      (∀ line ∈ refusalLines text, PlainText line) ∧
      ∀ stamp words invocation json, CommandLine.parse words = .ok invocation →
        invocation.command.getD (.check none false) = .check none json →
        Program.ValidFilter env →
        (Program.run stamp words env).1 = ⟨.failure, "", unlines (refusalLines text)⟩) ∧
    (∀ (env env' : Environment) (text text' : String) (error error' : ConfigurationError),
      Configuration.Refuses env text error → Configuration.Refuses env' text' error' →
      error.message = error'.message → text = text') := by
  have hquotation {env : Environment} {text : String} {error : ConfigurationError}
      (h : Configuration.Refuses env text error) :
      Quoted.firstQuotation? error.message = some text := by
    rw [h.error_eq]
    exact ConfigurationError.firstQuotation?_message _
  constructor
  · intro env text error h
    refine ⟨error.plainText_message, hquotation h, fun _ => plainText_of_mem_refusalLines, ?_⟩
    intro stamp words invocation json hparse hcommand hvalid
    exact h.run_eq hvalid hparse hcommand stamp
  · intro env env' text text' error error' h h' hmessage
    have hsame := hquotation h
    rw [hmessage, hquotation h'] at hsame
    exact (Option.some.inj hsame).symm

/--
A text that would clear the screen, close the quotation and add a line of its own is
told in five lines, as one quotation.
-/
theorem refusal_is_told_faithfully_of_forgery :
    let env := Environment.ofList [⟨"FACT_DRIVER_INPUT", "\x1b[2J\"\n    1: fine\\"⟩]
    let error : ConfigurationError := ⟨"\x1b[2J\"\n    1: fine\\"⟩
    Configuration.Refuses env "\x1b[2J\"\n    1: fine\\" error ∧ PlainText error.message ∧
    Quoted.firstQuotation? error.message = some "\x1b[2J\"\n    1: fine\\" ∧
    (Program.run "" ["check", "--json"] env).1.stderr = unlines
      ["Error: failed to load driver configuration", "", "Caused by:",
        "    0: invalid configuration: invalid type: string "
          ++ "\"\\u\x7b1b\x7d[2J\\\"\\n    1: fine\\\\\""
          ++ ", expected an integer for key `input` in the environment",
        "    1: invalid type: string \"\\u\x7b1b\x7d[2J\\\"\\n    1: fine\\\\\""
          ++ ", expected an integer for key `input` in the environment"] := by
  intro env error
  have hstands : Configuration.Stands (some "\x1b[2J\"\n    1: fine\\") env := .inl rfl
  have hrefuses : Configuration.Refuses env "\x1b[2J\"\n    1: fine\\" error := by
    refine ⟨⟨⟨"FACT_DRIVER_INPUT", "\x1b[2J\"\n    1: fine\\"⟩, ?_, rfl⟩, ?_⟩
    · rw [hstands.spellings_install]
      rfl
    · rw [hstands.load]
      decide +kernel
  obtain ⟨hplain, hquotation, -, hrun⟩ := refusal_is_told_faithfully.1 env _ _ hrefuses
  have houtcome := hrun "" ["check", "--json"] ⟨0, some (.check none true)⟩ true rfl rfl (by decide)
  refine ⟨hrefuses, hplain, hquotation, ?_⟩
  rw [houtcome]
  decide +kernel

end FactorialCheck
