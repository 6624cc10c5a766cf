import FactorialCheck.Text.Pieces

/-!
# Lines

Texts made of lines, each of which is ended by a newline.
-/

namespace FactorialCheck

/-- One line for each string. -/
def unlines (lines : List String) : String :=
  String.join (lines.map fun line => line ++ "\n")

/-- A line without the carriage return that may stand at its end. -/
def dropReturn (line : List Char) : List Char :=
  if line.getLast? = some '\r' then line.dropLast else line

/-- What comes before the first line end, which is a newline or a carriage return and a newline. -/
def firstLine (text : String) : String :=
  match text.toList.dropWhile (· ≠ '\n') with
  | [] => text
  | _ => String.ofList (dropReturn (text.toList.takeWhile (· ≠ '\n')))

/-- The lines of a text, the last of which need not be ended. -/
def linesOf (cs : List Char) : List (List Char) :=
  let all := pieces '\n' cs
  all.dropLast.map dropReturn ++
    match all.getLast? with
    | none | some [] => []
    | some last => [last]

@[simp] theorem unlines_nil : unlines [] = "" :=
  rfl

@[simp] theorem unlines_cons (line : String) (lines : List String) :
    unlines (line :: lines) = line ++ "\n" ++ unlines lines := by
  simp [unlines]

end FactorialCheck
