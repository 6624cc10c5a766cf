import FactorialCheck.CommandLine.Parse
import FactorialCheck.Proofs.Numerals

/-!
# The grammar of the command line

The command lines that are understood, written as rules that do not depend on
how a command line is read.
-/

namespace FactorialCheck.CommandLine

open Numeral (Denotes)

/-- A word that asks for verbosity, and how many times it does. -/
inductive VerboseWord : String → Nat → Prop where
  | long : VerboseWord "--verbose" 1
  | cluster (more : Nat) :
      VerboseWord (String.ofList ('-' :: List.replicate (more + 1) 'v')) (more + 1)

/-- Any number of such words. -/
inductive VerboseWords : List String → Nat → Prop where
  | nil : VerboseWords [] 0
  | cons {word : String} {words : List String} {count total : Nat} :
      VerboseWord word count → VerboseWords words total →
        VerboseWords (word :: words) (count + total)

/-- The end of the words that can be flags, and the operands behind the terminator. -/
inductive Ending : List String → List String → Prop where
  | plain : Ending [] []
  | terminated (operands : List String) : Ending ("--" :: operands) operands

/-- The arguments of a check in any order, JSON and the input at most once each. -/
inductive CheckArguments : List String → Nat → Bool → Option Int64 → Prop where
  | nil : CheckArguments [] 0 false none
  | verbose {word : String} {words : List String} {count total : Nat} {json : Bool}
      {input : Option Int64} :
      VerboseWord word count → CheckArguments words total json input →
        CheckArguments (word :: words) (count + total) json input
  | json {words : List String} {total : Nat} {input : Option Int64} :
      CheckArguments words total false input →
        CheckArguments ("--json" :: words) total true input
  | joinedInput {text : String} {n : Int64} {words : List String} {total : Nat} {json : Bool} :
      Denotes text n → CheckArguments words total json none →
        CheckArguments (("--input=" ++ text) :: words) total json (some n)
  | separateInput {text : String} {n : Int64} {words : List String} {total : Nat} {json : Bool} :
      Denotes text n → CheckArguments words total json none →
        CheckArguments ("--input" :: text :: words) total json (some n)

/-- The arguments of an evaluation: requests for verbosity among its operands. -/
inductive EvalArguments : List String → Nat → List String → Prop where
  | nil : EvalArguments [] 0 []
  | verbose {word : String} {words operands : List String} {count total : Nat} :
      VerboseWord word count → EvalArguments words total operands →
        EvalArguments (word :: words) (count + total) operands
  | operand {word : String} {words operands : List String} {total : Nat} :
      EvalArguments words total operands → EvalArguments (word :: words) total (word :: operands)

/-- The verbosity asked for inside a subcommand, if any, replaces that asked for before it. -/
def verbosity (outer inner : Nat) : Nat :=
  if inner = 0 then min 255 outer else min 255 inner

/-- What can follow the first `outer` requests for verbosity. -/
inductive Continuation (outer : Nat) : List String → Invocation → Prop where
  | bare {ending : List String} :
      Ending ending [] → Continuation outer ending ⟨min 255 outer, none⟩
  | nothing {arguments ending : List String} {inner : Nat} :
      VerboseWords arguments inner → Ending ending [] →
        Continuation outer ("nothing" :: (arguments ++ ending))
          ⟨verbosity outer inner, some .nothing⟩
  | check {arguments ending : List String} {inner : Nat} {json : Bool} {input : Option Int64} :
      CheckArguments arguments inner json input → Ending ending [] →
        Continuation outer ("check" :: (arguments ++ ending))
          ⟨verbosity outer inner, some (.check input json)⟩
  | eval {arguments ending before after : List String} {inner : Nat} {strategy : Strategy}
      {number : String} {n : Int64} :
      EvalArguments arguments inner before → Ending ending after →
        before ++ after = [strategy.name, number] → Denotes number n →
        Continuation outer ("eval" :: (arguments ++ ending))
          ⟨verbosity outer inner, some (.eval strategy n)⟩

/-- The command lines that are understood, and what they say. -/
def Understood (words : List String) (invocation : Invocation) : Prop :=
  ∃ requests rest outer, words = requests ++ rest ∧ VerboseWords requests outer ∧
    Continuation outer rest invocation

end FactorialCheck.CommandLine
