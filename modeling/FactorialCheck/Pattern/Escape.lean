import FactorialCheck.Pattern.Cursor
import FactorialCheck.Pattern.Expression
import FactorialCheck.Text.Hexadecimal

/-!
# Escapes

What begins with a backslash: a character, a class of characters or a place.
-/

namespace FactorialCheck.Pattern

/-- The characters that stand for themselves behind a backslash. -/
def isEscapable (c : Char) : Bool :=
  c.toNat < 0x80 && !c.isAlphanum && c != '<' && c != '>'

/-- The characters that have a letter. -/
def namedCharacter? : Char → Option Char
  | 'a' => some '\x07'
  | 'f' => some '\x0c'
  | 't' => some '\t'
  | 'n' => some '\n'
  | 'r' => some '\r'
  | 'v' => some '\x0b'
  | _ => none

/-- The character of this number, which is written within the span `digits`. -/
def readCharacter (number : Nat) (digits : Span) : Except Complaint Char :=
  if number.isValidChar then .ok (Char.ofNat number) else complain .noCharacter digits

/-- Reads a set number of hexadecimal digits. -/
def readHexDigits : Nat → Nat → Cursor → Except Complaint (Nat × Cursor)
  | 0, number, cursor => .ok (number, cursor)
  | count + 1, number, cursor =>
    match cursor.rest with
    | [] => complain .incompleteEscape cursor.here
    | c :: _ =>
      match hexDigit? c with
      | some digit => readHexDigits count (number * 16 + digit) cursor.advance
      | none => complain .hexDigit cursor.spanned

/-- Reads hexadecimal digits between braces, from the opening one on. -/
def readHexInBraces (start : Position) (cursor : Cursor) :
    Except Complaint (Primitive × Cursor) :=
  let (digits, closing) := cursor.advance.collect fun c => (hexDigit? c).isSome
  match closing.rest with
  | [] => complain .incompleteEscape ⟨cursor.position, closing.position⟩
  | '}' :: _ =>
    let left := closing.advance
    if digits.isEmpty then complain .emptyHex ⟨cursor.position, left.position⟩
    else do
      let number := digits.foldl (fun number c => number * 16 + (hexDigit? c).getD 0) 0
      let c ← readCharacter number ⟨cursor.bump.position, closing.position⟩
      .ok (.literal ⟨⟨start, left.position⟩, c, false⟩, left)
  | _ => complain .hexDigit closing.spanned

/-- Reads a character's number behind `x`, `u` or `U`: so many digits, or any between braces. -/
def readHex (start : Position) (digits : Nat) (cursor : Cursor) :
    Except Complaint (Primitive × Cursor) :=
  let inner := cursor.advance
  match inner.rest with
  | [] => complain .incompleteEscape inner.here
  | '{' :: _ => readHexInBraces start inner
  | _ => do
    let (number, left) ← readHexDigits digits 0 inner
    let c ← readCharacter number ⟨inner.position, left.position⟩
    .ok (.literal ⟨⟨start, left.position⟩, c, digits == 2⟩, left)

/-- Reads the property behind `p` or `P`: a letter, or a name between braces. -/
def readProperty (start : Position) (cursor : Cursor) : Except Complaint (Primitive × Cursor) :=
  let inner := cursor.advance
  match inner.rest with
  | [] => complain .incompleteEscape inner.here
  | '\\' :: _ => complain .propertyName inner.spanned
  | '{' :: _ =>
    let (_, closing) := inner.advance.collect (· != '}')
    match closing.rest with
    | [] => complain .incompleteEscape closing.here
    | _ => .ok (.property ⟨start, closing.bump.position⟩, closing.bump)
  | _ => .ok (.property ⟨start, inner.advance.position⟩, inner.advance)

/-- Names of edges of words, which stand between braces. -/
def wordEdges : List String :=
  ["start", "end", "start-half", "end-half"]

def isEdgeCharacter (c : Char) : Bool :=
  c.isAlpha || c == '-'

/--
Reads the braces behind the escape of an edge of a word. If they do not name an
edge they are left for a repetition.
-/
def readWordEdge (start : Position) (cursor : Cursor) : Except Complaint (Primitive × Cursor) :=
  match cursor.rest with
  | '{' :: _ =>
    let inner := cursor.advance
    match inner.rest with
    | [] => complain .boundaryOrCount ⟨start, inner.position⟩
    | c :: _ =>
      if isEdgeCharacter c then
        let (name, closing) := inner.collect isEdgeCharacter
        match closing.rest with
        | '}' :: _ =>
          if wordEdges.contains (String.ofList name) then
            .ok (.place ⟨start, closing.bump.position⟩ true, closing.bump)
          else
            complain .unknownBoundary ⟨inner.position, closing.position⟩
        | _ => complain .unclosedBoundary ⟨cursor.position, closing.position⟩
      else
        .ok (.place ⟨start, cursor.position⟩ true, cursor)
  | _ => .ok (.place ⟨start, cursor.position⟩ true, cursor)

/-- Reads the escape of one character that takes no more. -/
def readShortEscape (start : Position) (c : Char) (left : Cursor) :
    Except Complaint (Primitive × Cursor) :=
  let span : Span := ⟨start, left.position⟩
  if isEscapable c then .ok (.literal ⟨span, c, false⟩, left)
  else
    match namedCharacter? c with
    | some named => .ok (.literal ⟨span, named, false⟩, left)
    | none =>
      match c with
      | 'd' | 's' | 'w' => .ok (.shorthand span false, left)
      | 'D' | 'S' | 'W' => .ok (.shorthand span true, left)
      | 'A' | 'z' => .ok (.place span false, left)
      | 'B' | '<' | '>' => .ok (.place span true, left)
      | _ => complain (if c.isDigit then .backreference else .unknownEscape) span

/-- Reads an escape, from the backslash on. -/
def readEscape (cursor : Cursor) : Except Complaint (Primitive × Cursor) :=
  let start := cursor.position
  let inner := cursor.bump
  match inner.rest with
  | [] => complain .incompleteEscape ⟨start, inner.position⟩
  | 'x' :: _ => readHex start 2 inner
  | 'u' :: _ => readHex start 4 inner
  | 'U' :: _ => readHex start 8 inner
  | 'p' :: _ | 'P' :: _ => readProperty start inner
  | 'b' :: _ => readWordEdge start inner.bump
  | c :: _ => readShortEscape start c inner.bump

/-- Reads what is no operator. -/
def readPrimitive (c : Char) (cursor : Cursor) : Except Complaint (Primitive × Cursor) :=
  match c with
  | '\\' => readEscape cursor
  | '.' => .ok (.dot cursor.spanned, cursor.bump)
  | '^' | '$' => .ok (.place cursor.spanned false, cursor.bump)
  | c => .ok (.literal ⟨cursor.spanned, c, false⟩, cursor.bump)

end FactorialCheck.Pattern
