import FactorialCheck.CommandLine.Basic
import FactorialCheck.Text.Lines

/-!
# Help pages

The texts shown instead of running a command.
-/

namespace FactorialCheck.CommandLine

def version : String :=
  unlines ["fact 0.1.0"]

/-- What a subcommand does. -/
def Subcommand.about : Subcommand → String
  | .check => "Compute the factorial three ways and report whether the results agree"
  | .eval => "Compute the factorial with a single strategy"
  | .nothing => "Print \"Nothing\""
  | .help => "Print this message or the help of the given subcommand(s)"

namespace Page

def lines : Page → List String
  | .program =>
    ["Usage: fact [OPTIONS] [COMMAND]",
     "",
     "Commands:",
     "  check    " ++ Subcommand.check.about,
     "  eval     " ++ Subcommand.eval.about,
     "  nothing  " ++ Subcommand.nothing.about,
     "  help     " ++ Subcommand.help.about,
     "",
     "Options:",
     "  -v, --verbose...  Increase log verbosity, may be repeated",
     "  -h, --help        Print help",
     "  -V, --version     Print version"]
  | .subcommand .check =>
    [Subcommand.check.about,
     "",
     "Usage: fact check [OPTIONS]",
     "",
     "Options:",
     "      --input <INPUT>  Input to evaluate at. Read from FACT_DRIVER_INPUT if omitted",
     "  -v, --verbose...     Increase log verbosity, may be repeated",
     "      --json           Print the computed values as JSON before the verdict",
     "  -h, --help           Print help"]
  | .subcommand .eval =>
    [Subcommand.eval.about,
     "",
     "Usage: fact eval [OPTIONS] <STRATEGY> <N>",
     "",
     "Arguments:",
     "  <STRATEGY>  Control-flow style to compute with [possible values: recursive, while, for]",
     "  <N>         ",
     "",
     "Options:",
     "  -v, --verbose...  Increase log verbosity, may be repeated",
     "  -h, --help        Print help"]
  | .subcommand .nothing =>
    [Subcommand.nothing.about,
     "",
     "Usage: fact nothing [OPTIONS]",
     "",
     "Options:",
     "  -v, --verbose...  Increase log verbosity, may be repeated",
     "  -h, --help        Print help"]
  | .subcommand .help =>
    [Subcommand.help.about,
     "",
     "Usage: fact help [COMMAND]...",
     "",
     "Arguments:",
     "  [COMMAND]...  Print help for the subcommand(s)"]

def text (page : Page) : String :=
  unlines page.lines

end Page

end FactorialCheck.CommandLine
