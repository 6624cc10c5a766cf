import FactorialCheck.Check
import FactorialCheck.Environment
import FactorialCheck.Text.Ascii
import FactorialCheck.Text.Lines
import FactorialCheck.Text.Quoted

/-!
# Configuration

The input that a check has when none is given comes from a variable. Where the
variable is missing its default is put into the environment first, and stays
there.
-/

namespace FactorialCheck

structure Configuration where
  input : Int64
  deriving DecidableEq, Repr

/-- A value that is no input. -/
structure ConfigurationError where
  text : String
  deriving DecidableEq, Repr

namespace ConfigurationError

/-- What is wrong with the value. -/
def reason (error : ConfigurationError) : String :=
  "invalid type: string " ++ Quoted.quote error.text
    ++ ", expected an integer for key `input` in the environment"

def message (error : ConfigurationError) : String :=
  "invalid configuration: " ++ error.reason

end ConfigurationError

namespace Configuration

/-- Part of the configuration that belongs to the check. -/
def group : String := "DRIVER"

/-- The variable of the input. -/
def inputVariable : String :=
  "FACT_" ++ group ++ "_INPUT"

/-- The variables that are set when they are missing. -/
def defaults : List Variable :=
  [⟨inputVariable, Numeral.ofInput defaultInput⟩]

/-- The defaults as lines of text. -/
def defaultsText : String :=
  unlines (defaults.map fun v => v.name ++ "=" ++ v.value)

/-- Sets the defaults of the variables that are missing. -/
def install (env : Environment) : Environment :=
  defaults.foldl
    (fun env v => if env.contains v.name then env else env.set v.name v.value) env

/-- What the names of the variables of the group begin with, in lower case. -/
def namesStart : List Char :=
  (Ascii.lower ("FACT_" ++ group ++ "_")).toList

/--
The key that a variable sets in the group, if its name belongs there: the rest of
the name, with a point between its parts. Case does not matter; no letter outside
ASCII has a lower case in the names that count.
-/
def key? (name : String) : Option String :=
  let cs := (Ascii.lower name).toList
  if namesStart.isPrefixOf cs then
    some (String.ofList ((cs.drop namesStart.length).map fun c => if c = '_' then '.' else c))
  else none

/--
Whether a variable sets the input. A name that goes on behind that of the input would put
a table in its place; environments with such names are not described here.
-/
def suppliesInput (v : Variable) : Bool :=
  key? v.name == some "input"

/-- The value that is read for the input: the last variable that supplies it counts. -/
def inputText? (env : Environment) : Option String :=
  (env.toList.filter suppliesInput).getLast?.map Variable.value

theorem contains_install (env : Environment) :
    (install env).contains inputVariable = true := by
  simp only [install, defaults, List.foldl_cons, List.foldl_nil]
  split
  · assumption
  · exact Environment.contains_set ..

theorem isSome_inputText?_install (env : Environment) :
    (inputText? (install env)).isSome = true := by
  obtain ⟨v, hmem, hname⟩ := List.any_eq_true.mp (contains_install env)
  simp only [beq_iff_eq] at hname
  have hfilter : v ∈ (install env).toList.filter suppliesInput := by
    refine List.mem_filter.mpr ⟨hmem, ?_⟩
    rw [suppliesInput, hname]
    rfl
  rw [inputText?, Option.isSome_map, List.getLast?_isSome]
  exact List.ne_nil_of_mem hfilter

/-- Words that stand for a truth value, and so for 1 or 0. -/
def truthWord? (text : String) : Option Int64 :=
  let word := Ascii.lower text
  if word ∈ ["true", "on", "yes"] then some 1
  else if word ∈ ["false", "off", "no"] then some 0
  else none

/-- Reads the value of the input. -/
def readInput (text : String) : Except ConfigurationError Int64 :=
  match truthWord? text with
  | some n => .ok n
  | none =>
    match Numeral.read text with
    | .ok n => .ok n
    | .error _ => .error ⟨text⟩

/-- The configuration of an environment, and the environment with the defaults set. -/
def load (env : Environment) : Except ConfigurationError Configuration × Environment :=
  let text := (inputText? (install env)).get (isSome_inputText?_install env)
  ((readInput text).map Configuration.mk, install env)

end Configuration

end FactorialCheck
