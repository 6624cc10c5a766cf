import FactorialCheck.CommandLine.Draft
import FactorialCheck.CommandLine.Word

/-!
# Reading a command line

The words are read from left to right, each of them moving on the state of the
reading or stopping it.
-/

namespace FactorialCheck.CommandLine

/-- A subcommand whose arguments are being read. -/
structure Progress where
  /-- Verbosity asked for before the subcommand. -/
  outer : Nat
  /-- Verbosity asked for after it. -/
  inner : Nat
  draft : Draft
  terminated : Bool
  deriving DecidableEq, Repr

inductive State where
  /-- No subcommand so far. -/
  | program (verbose : Nat)
  /-- No subcommand, and no word can follow. -/
  | ended (verbose : Nat)
  /-- Help was asked for by its subcommand. -/
  | help (topic : Option Subcommand)
  | inside (progress : Progress)
  deriving DecidableEq, Repr

/-- One more occurrence of the verbose flag. They are counted up to 255. -/
def increase (verbose : Nat) : Nat :=
  min 255 (verbose + 1)

section Flags

variable {σ : Type}

/-- A flag with two dashes: alone it acts, with an equals sign it is given a value. -/
def readLong (known : List Flag) (act : σ → Flag → Except Stop σ)
    (give : σ → Flag → String → Except Stop σ) (s : σ)
    (name : String) (value : Option String) : Except Stop σ :=
  match known.find? fun flag => flag.name == name with
  | none => stop (.unexpectedArgument ("--" ++ name))
  | some flag =>
    match value with
    | none => act s flag
    | some text => give s flag text

def readLetter (known : List Flag) (act : σ → Flag → Except Stop σ) (s : σ)
    (letter : Char) : Except Stop σ :=
  match known.find? fun flag => flag.letter? == some letter with
  | none => stop (.unexpectedArgument (String.ofList ['-', letter]))
  | some flag => act s flag

/-- The flags behind one dash, from left to right. -/
def readCluster (known : List Flag) (act : σ → Flag → Except Stop σ) (s : σ)
    (letters : List Char) : Except Stop σ :=
  letters.foldlM (readLetter known act) s

end Flags

def programFlags : List Flag :=
  [.verbose, .help, .version]

/-- What a flag does before any subcommand. -/
def programAct (verbose : Nat) : Flag → Except Stop Nat
  | .verbose => .ok (increase verbose)
  | .help => .error (.help .program)
  | .version => .error .version
  | flag => stop (.unexpectedArgument flag.spelling)

/-- Before any subcommand no flag has a value. -/
def programGive (_ : Nat) (flag : Flag) (text : String) : Except Stop Nat :=
  stop (.unexpectedValue text flag)

namespace Progress

def start (verbose : Nat) (draft : Draft) : Progress :=
  ⟨verbose, 0, draft, false⟩

/-- Verbosity asked for inside the subcommand replaces that asked for before. -/
def verbose (p : Progress) : Nat :=
  if p.inner = 0 then p.outer else p.inner

/-- What a flag does inside a subcommand, once what stands unread is settled. -/
def act (p : Progress) (flag : Flag) : Except Stop Progress := do
  let draft ← p.draft.settle
  match flag with
  | .verbose => .ok { p with draft := draft, inner := increase p.inner }
  | .help => .error (.help (.subcommand draft.subcommand))
  | flag => do
    let switched ← draft.switch flag
    .ok { p with draft := switched }

/-- Takes a word that is no flag. -/
def place (p : Progress) (word : String) : Except Stop Progress := do
  let draft ← p.draft.place p.terminated word
  .ok { p with draft := draft }

/-- Gives a value to a flag, of which only `--input` takes one. -/
def give (p : Progress) (flag : Flag) (text : String) : Except Stop Progress :=
  match flag with
  | .input => do
    let settled ← p.draft.settle
    let draft ← settled.assign text
    .ok { p with draft := draft }
  | flag => stop (.unexpectedValue text flag)

/-- Takes the next word. -/
def next (p : Progress) (word : String) : Except Stop Progress :=
  if p.terminated then p.place word
  else
    match Word.ofText word with
    | .terminator => .ok { p with terminated := true }
    | .long name value => readLong p.draft.flags act give p name value
    | .cluster letters =>
      if p.draft.expectsNumber && looksNumeric letters then p.place word
      else readCluster p.draft.flags act p letters
    | .plain => p.place word

end Progress

namespace State

/-- The state after the name of a subcommand. -/
def enter (verbose : Nat) : Subcommand → State
  | .check => .inside (.start verbose (.check none false .none))
  | .eval => .inside (.start verbose (.eval .start))
  | .nothing => .inside (.start verbose .nothing)
  | .help => .help none

/-- Takes the next word before any subcommand. -/
def nextProgram (verbose : Nat) (word : String) : Except Stop State :=
  match Word.ofText word with
  | .terminator => .ok (.ended verbose)
  | .long name value =>
    (readLong programFlags programAct programGive verbose name value).map .program
  | .cluster letters => (readCluster programFlags programAct verbose letters).map .program
  | .plain =>
    match Subcommand.ofName? word with
    | some subcommand => .ok (enter verbose subcommand)
    | none => stop (.unknownSubcommand word)

/-- Takes the next word. -/
def next (s : State) (word : String) : Except Stop State :=
  match s with
  | .program verbose => nextProgram verbose word
  | .ended _ =>
    match Subcommand.ofName? word with
    | some _ => stop (.unexpectedArgument word)
    | none => stop (.unknownSubcommand word)
  | .help none =>
    match Subcommand.ofName? word with
    | some topic => .ok (.help (some topic))
    | none => stop (.unknownSubcommand word)
  | .help (some _) => stop (.unknownSubcommand word)
  | .inside p => (p.next word).map .inside

/-- What the words read so far say if no more follow. -/
def finish : State → Except Stop Invocation
  | .program verbose => .ok ⟨verbose, none⟩
  | .ended verbose => .ok ⟨verbose, none⟩
  | .help none => .error (.help .program)
  | .help (some topic) => .error (.help (.subcommand topic))
  | .inside p => do
    let draft ← p.draft.settle
    let command ← draft.complete
    .ok ⟨p.verbose, some command⟩

end State

/-- Reads the words after the name of the program. -/
def parse (words : List String) : Except Stop Invocation :=
  words.foldlM State.next (.program 0) >>= State.finish

end FactorialCheck.CommandLine
