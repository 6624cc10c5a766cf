import FactorialCheck.Numeral
import FactorialCheck.Strategy
import FactorialCheck.Text.ControlSequence
import FactorialCheck.Text.Lines

/-!
# What a command line says

The commands, the flags, and the ways in which reading stops early.
-/

namespace FactorialCheck.CommandLine

inductive Command where
  | check (input : Option Int64) (json : Bool)
  | eval (strategy : Strategy) (n : Int64)
  | nothing
  deriving DecidableEq, Repr

/-- A command line that was understood. -/
structure Invocation where
  verbose : Nat
  command : Option Command
  deriving DecidableEq, Repr

inductive Subcommand where
  | check
  | eval
  | nothing
  | help
  deriving DecidableEq, Repr

namespace Subcommand

def all : List Subcommand :=
  [.check, .eval, .nothing, .help]

def name : Subcommand → String
  | .check => "check"
  | .eval => "eval"
  | .nothing => "nothing"
  | .help => "help"

def ofName? (text : String) : Option Subcommand :=
  all.find? fun subcommand => subcommand.name == text

end Subcommand

inductive Flag where
  | verbose
  | help
  | version
  | json
  | input
  deriving DecidableEq, Repr

namespace Flag

def name : Flag → String
  | .verbose => "verbose"
  | .help => "help"
  | .version => "version"
  | .json => "json"
  | .input => "input"

def letter? : Flag → Option Char
  | .verbose => some 'v'
  | .help => some 'h'
  | .version => some 'V'
  | .json => none
  | .input => none

/-- A flag as it is written with two dashes. -/
def spelling (flag : Flag) : String :=
  "--" ++ flag.name

/-- How messages refer to a flag. -/
def label : Flag → String
  | .verbose => "--verbose..."
  | .help => "--help"
  | .version => "--version"
  | .json => "--json"
  | .input => "--input <INPUT>"

end Flag

/-- Where a value can be missing or wrong. -/
inductive Operand where
  | input
  | strategy
  | number
  deriving DecidableEq, Repr

/-- How messages refer to an operand. -/
def Operand.label : Operand → String
  | .input => Flag.input.label
  | .strategy => "<STRATEGY>"
  | .number => "<N>"

inductive Mistake where
  | unknownSubcommand (word : String)
  | unexpectedArgument (word : String)
  | unexpectedValue (value : String) (flag : Flag)
  | repeated (flag : Flag)
  | missingValue (operand : Operand)
  | unknownStrategy (word : String)
  | invalidNumber (word : String) (operand : Operand) (fault : NumeralFault)
  | missingOperands
  deriving DecidableEq, Repr

namespace Mistake

/-- A word of the command line as messages show it. -/
def shown (word : String) : String :=
  "'" ++ ControlSequence.strip word ++ "'"

def text : Mistake → String
  | .unknownSubcommand word => "error: unrecognized subcommand " ++ shown word
  | .unexpectedArgument word => "error: unexpected argument " ++ shown word ++ " found"
  | .unexpectedValue value flag =>
    "error: unexpected value " ++ shown value
      ++ s!" for '{flag.label}' found; no more were expected"
  | .repeated flag => s!"error: the argument '{flag.label}' cannot be used multiple times"
  | .missingValue operand =>
    s!"error: a value is required for '{operand.label}' but none was supplied"
  | .unknownStrategy word =>
    "error: invalid value " ++ shown word ++ s!" for '{Operand.strategy.label}'"
  | .invalidNumber word operand fault =>
    "error: invalid value " ++ shown word ++ s!" for '{operand.label}': {fault.message}"
  | .missingOperands => "error: the following required arguments were not provided:"

/-- The first line of the text. -/
def message (mistake : Mistake) : String :=
  firstLine mistake.text

end Mistake

/-- What there is help on. -/
inductive Page where
  | program
  | subcommand (subcommand : Subcommand)
  deriving DecidableEq, Repr

/-- Why there is no command to run. -/
inductive Stop where
  | help (page : Page)
  | version
  | mistake (mistake : Mistake)
  deriving DecidableEq, Repr

end FactorialCheck.CommandLine
