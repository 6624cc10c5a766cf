import FactorialCheck.Environment
import FactorialCheck.Text.Pieces

/-!
# Environment blocks

An environment as one text: `name=value` for each variable, and a NUL after it.
-/

namespace FactorialCheck

/-- A name, and the value after the first `=`. -/
def Variable.ofChars? (cs : List Char) : Option Variable :=
  match cs.dropWhile (· ≠ '=') with
  | [] => none
  | _ :: value => some ⟨String.ofList (cs.takeWhile (· ≠ '=')), String.ofList value⟩

/-- The environment that a block lists; what is no variable is left out. -/
def Environment.ofBlock (block : String) : Environment :=
  .ofList ((pieces '\x00' block.toList).filterMap Variable.ofChars?)

end FactorialCheck
