import FactorialCheck.Json.Basic
import FactorialCheck.Text.Hexadecimal

/-!
# Reading JSON

Each reader takes a value off the front of the text and leaves the rest. Of two
entries of one key in an object the later one counts.
-/

namespace FactorialCheck.Json

def isBlank (c : Char) : Bool :=
  c == ' ' || c == '\t' || c == '\n' || c == '\r'

def skipBlanks (cs : List Char) : List Char :=
  cs.dropWhile isBlank

/-- The number that digits write. -/
def decimal (digits : List Char) : Nat :=
  Nat.ofDigitChars 10 digits 0

/-- One or more digits. -/
def digits? (cs : List Char) : Option (List Char × List Char) :=
  let run := cs.takeWhile Char.isDigit
  if run.isEmpty then none else some (run, cs.dropWhile Char.isDigit)

/-- Digits that start with a zero only if there are no more. -/
def whole? (cs : List Char) : Option (List Char × List Char) :=
  match digits? cs with
  | some ('0' :: _ :: _, _) => none
  | found => found

def exponent? (cs : List Char) : Option (Int × List Char) :=
  match cs with
  | '-' :: rest => (digits? rest).map fun (run, rest) => (-(decimal run : Int), rest)
  | '+' :: rest => (digits? rest).map fun (run, rest) => ((decimal run : Int), rest)
  | _ => (digits? cs).map fun (run, rest) => ((decimal run : Int), rest)

/-- A real of these digits before and after the point, and the exponent that may follow. -/
def real? (negative : Bool) (whole fraction : List Char) (cs : List Char) :
    Option (Json × List Char) :=
  let significand := decimal (whole ++ fraction)
  match cs with
  | 'e' :: rest | 'E' :: rest =>
    (exponent? rest).map fun (exponent, rest) =>
      (.real ⟨negative, significand, exponent - fraction.length⟩, rest)
  | _ => some (.real ⟨negative, significand, -(fraction.length : Int)⟩, cs)

/-- A number after its sign. A zero with a minus sign is a real. -/
def magnitude? (negative : Bool) (cs : List Char) : Option (Json × List Char) :=
  match whole? cs with
  | none => none
  | some (whole, rest) =>
    match rest with
    | '.' :: more =>
      match digits? more with
      | none => none
      | some (fraction, rest) => real? negative whole fraction rest
    | 'e' :: _ | 'E' :: _ => real? negative whole [] rest
    | _ =>
      if negative then
        if decimal whole = 0 then some (.real ⟨true, 0, 0⟩, rest)
        else some (.integer (-(decimal whole : Int)), rest)
      else
        some (.integer (decimal whole), rest)

def number? (cs : List Char) : Option (Json × List Char) :=
  match cs with
  | '-' :: rest => magnitude? true rest
  | _ => magnitude? false cs

/-- The 16-bit unit that four hexadecimal digits write. -/
def unit? (a b c d : Char) : Option Nat := do
  let a ← hexDigit? a
  let b ← hexDigit? b
  let c ← hexDigit? c
  let d ← hexDigit? d
  pure (((a * 16 + b) * 16 + c) * 16 + d)

def namedEscape? : Char → Option Char
  | '"' => some '"'
  | '\\' => some '\\'
  | '/' => some '/'
  | 'b' => some '\x08'
  | 'f' => some '\x0c'
  | 'n' => some '\n'
  | 'r' => some '\r'
  | 't' => some '\t'
  | _ => none

/-- The character of a single unit, which must not be half of a pair. -/
def single? (unit : Nat) : Option Char :=
  if 0xD800 ≤ unit ∧ unit ≤ 0xDFFF then none else some (Char.ofNat unit)

/-- The character of a high and a low unit. -/
def pair? (high low : Nat) : Option Char :=
  if 0xD800 ≤ high ∧ high ≤ 0xDBFF ∧ 0xDC00 ≤ low ∧ low ≤ 0xDFFF then
    some (Char.ofNat (0x10000 + (high - 0xD800) * 0x400 + (low - 0xDC00)))
  else
    none

def consText (c : Char) : Option (List Char × List Char) → Option (List Char × List Char)
  | none => none
  | some (text, rest) => some (c :: text, rest)

/-- The characters up to the closing quote, after the opening one. -/
def stringBody? : List Char → Option (List Char × List Char)
  | [] => none
  | '"' :: rest => some ([], rest)
  | '\\' :: 'u' :: a :: b :: c :: d :: '\\' :: 'u' :: e :: f :: g :: h :: rest =>
    match unit? a b c d, unit? e f g h with
    | some high, some low =>
      match pair? high low with
      | some character => consText character (stringBody? rest)
      | none =>
        match single? high with
        | some character =>
          consText character (stringBody? ('\\' :: 'u' :: e :: f :: g :: h :: rest))
        | none => none
    | _, _ => none
  | '\\' :: 'u' :: a :: b :: c :: d :: rest =>
    match (unit? a b c d).bind single? with
    | some character => consText character (stringBody? rest)
    | none => none
  | '\\' :: c :: rest =>
    match namedEscape? c with
    | some character => consText character (stringBody? rest)
    | none => none
  | c :: rest =>
    if c.toNat < 32 ∨ c = '\\' then none else consText c (stringBody? rest)

mutual

/-- A value with at most `depth` values nested in and before it. -/
def value? : Nat → List Char → Option (Json × List Char)
  | 0, _ => none
  | depth + 1, cs =>
    match skipBlanks cs with
    | 'n' :: 'u' :: 'l' :: 'l' :: rest => some (.null, rest)
    | 't' :: 'r' :: 'u' :: 'e' :: rest => some (.bool true, rest)
    | 'f' :: 'a' :: 'l' :: 's' :: 'e' :: rest => some (.bool false, rest)
    | '"' :: rest =>
      (stringBody? rest).map fun (text, rest) => (.string (String.ofList text), rest)
    | '[' :: rest =>
      match skipBlanks rest with
      | ']' :: rest => some (.array [], rest)
      | rest => items? depth [] rest
    | '{' :: rest =>
      match skipBlanks rest with
      | '}' :: rest => some (.object [], rest)
      | rest => entries? depth [] rest
    | cs => number? cs

/-- The items of an array after those already read. -/
def items? : Nat → List Json → List Char → Option (Json × List Char)
  | 0, _, _ => none
  | depth + 1, read, cs =>
    match value? depth cs with
    | none => none
    | some (item, rest) =>
      match skipBlanks rest with
      | ',' :: rest => items? depth (read ++ [item]) rest
      | ']' :: rest => some (.array (read ++ [item]), rest)
      | _ => none

/-- The entries of an object after those already read. -/
def entries? : Nat → List (String × Json) → List Char → Option (Json × List Char)
  | 0, _, _ => none
  | depth + 1, read, cs =>
    match skipBlanks cs with
    | '"' :: rest =>
      match stringBody? rest with
      | none => none
      | some (key, rest) =>
        match skipBlanks rest with
        | ':' :: rest =>
          match value? depth rest with
          | none => none
          | some (value, rest) =>
            let read := put read (String.ofList key) value
            match skipBlanks rest with
            | ',' :: rest => entries? depth read rest
            | '}' :: rest => some (.object read, rest)
            | _ => none
        | _ => none
    | _ => none

end

/-- The value that a whole text writes. -/
def parse? (text : String) : Option Json :=
  let cs := text.toList
  match value? (2 * cs.length + 1) cs with
  | none => none
  | some (value, rest) => if (skipBlanks rest).isEmpty then some value else none

end FactorialCheck.Json
