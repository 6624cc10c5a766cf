import FactorialCheck.CommandLine.Basic

/-!
# Drafts

A draft is a command that is still being read. The text of an operand stands
unread until the next argument that is recognised, or the end, settles it.
-/

namespace FactorialCheck.CommandLine

/-- The value of `--input` that is not read yet. -/
inductive PendingInput where
  | none
  | awaited
  | given (text : String)
  deriving DecidableEq, Repr

/-- How far the operands of an evaluation have come. -/
inductive Operands where
  | start
  | strategyGiven (text : String)
  | strategyRead (strategy : Strategy)
  | numberGiven (strategy : Strategy) (text : String)
  | numberRead (strategy : Strategy) (n : Int64)
  deriving DecidableEq, Repr

inductive Draft where
  | check (input : Option Int64) (json : Bool) (pending : PendingInput)
  | eval (operands : Operands)
  | nothing
  deriving DecidableEq, Repr

def stop {α : Type} (mistake : Mistake) : Except Stop α :=
  .error (.mistake mistake)

def readNumber (operand : Operand) (text : String) : Except Stop Int64 :=
  match Numeral.read text with
  | .ok n => .ok n
  | .error fault => stop (.invalidNumber text operand fault)

def readStrategy (text : String) : Except Stop Strategy :=
  match Strategy.ofName? text with
  | some strategy => .ok strategy
  | none => if text = "" then stop (.missingValue .strategy) else stop (.unknownStrategy text)

namespace Draft

/-- The flags that are known inside a command. -/
def flags : Draft → List Flag
  | .check .. => [.verbose, .help, .json, .input]
  | .eval _ => [.verbose, .help]
  | .nothing => [.verbose, .help]

def subcommand : Draft → Subcommand
  | .check .. => .check
  | .eval _ => .eval
  | .nothing => .nothing

/-- Whether a number with a minus sign would be taken for a value. -/
def expectsNumber : Draft → Bool
  | .check _ _ .awaited => true
  | .eval (.strategyGiven _) => true
  | .eval (.strategyRead _) => true
  | _ => false

/-- Takes the value of `--input`, of which there can be one. -/
def assignInput (input : Option Int64) (json : Bool) (text : String) : Except Stop Draft :=
  match input with
  | some _ => stop (.repeated .input)
  | none => do
    let n ← readNumber .input text
    .ok (.check (some n) json .none)

/-- Reads what stands unread. -/
def settle : Draft → Except Stop Draft
  | .check input json .none => .ok (.check input json .none)
  | .check _ _ .awaited => stop (.missingValue .input)
  | .check input json (.given text) => assignInput input json text
  | .eval (.strategyGiven text) => do
    let strategy ← readStrategy text
    .ok (.eval (.strategyRead strategy))
  | .eval (.numberGiven strategy text) => do
    let n ← readNumber .number text
    .ok (.eval (.numberRead strategy n))
  | .eval operands => .ok (.eval operands)
  | .nothing => .ok .nothing

/-- Takes a word that is no flag. After the terminator it is never a value of `--input`. -/
def place (terminated : Bool) (word : String) : Draft → Except Stop Draft
  | .check input json .awaited =>
    if terminated then stop (.unexpectedArgument word)
    else .ok (.check input json (.given word))
  | .check .. => stop (.unexpectedArgument word)
  | .eval .start => .ok (.eval (.strategyGiven word))
  | .eval (.strategyGiven text) => do
    let strategy ← readStrategy text
    .ok (.eval (.numberGiven strategy word))
  | .eval (.strategyRead strategy) => .ok (.eval (.numberGiven strategy word))
  | .eval (.numberGiven ..) => stop (.unexpectedArgument word)
  | .eval (.numberRead ..) => stop (.unexpectedArgument word)
  | .nothing => stop (.unexpectedArgument word)

/-- Takes a value given to `--input` by an equals sign. -/
def assign (text : String) : Draft → Except Stop Draft
  | .check input json _ => assignInput input json text
  | _ => stop (.unexpectedArgument Flag.input.spelling)

/-- What the flags that only some commands have do to a settled draft. -/
def switch (flag : Flag) : Draft → Except Stop Draft
  | .check input json pending =>
    match flag with
    | .json => if json then stop (.repeated .json) else .ok (.check input true pending)
    | .input => .ok (.check input json .awaited)
    | flag => stop (.unexpectedArgument flag.spelling)
  | _ => stop (.unexpectedArgument flag.spelling)

/-- The command of a settled draft. -/
def complete : Draft → Except Stop Command
  | .check input json _ => .ok (.check input json)
  | .eval (.numberRead strategy n) => .ok (.eval strategy n)
  | .eval _ => stop .missingOperands
  | .nothing => .ok .nothing

end Draft

end FactorialCheck.CommandLine
