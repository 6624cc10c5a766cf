/-!
# Words of a command line

What a word looks like before it is known where it stands.
-/

namespace FactorialCheck.CommandLine

inductive Word where
  /-- Two dashes alone: what follows is no flag. -/
  | terminator
  /-- A name after two dashes, and the value after `=`. -/
  | long (name : String) (value : Option String)
  /-- The characters after one dash. -/
  | cluster (letters : List Char)
  | plain
  deriving DecidableEq, Repr

namespace Word

def ofLong (cs : List Char) : Word :=
  .long (String.ofList (cs.takeWhile (· ≠ '=')))
    (match cs.dropWhile (· ≠ '=') with
    | [] => none
    | _ :: value => some (String.ofList value))

def ofChars : List Char → Word
  | ['-', '-'] => .terminator
  | '-' :: '-' :: rest => ofLong rest
  | '-' :: c :: rest => .cluster (c :: rest)
  | _ => .plain

def ofText (text : String) : Word :=
  ofChars text.toList

end Word

/-- Nothing, or an `e` and one or more digits. -/
def isExponent : List Char → Bool
  | [] => true
  | 'e' :: rest | 'E' :: rest => !rest.isEmpty && rest.all Char.isDigit
  | _ => false

/-- Digits that may be followed by a point with more digits, and by an exponent. -/
def looksNumeric (cs : List Char) : Bool :=
  match cs.takeWhile Char.isDigit, cs.dropWhile Char.isDigit with
  | [], _ => false
  | _, '.' :: rest => isExponent (rest.dropWhile Char.isDigit)
  | _, rest => isExponent rest

end FactorialCheck.CommandLine
