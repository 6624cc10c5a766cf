import FactorialCheck.Pattern.CharacterSet
import FactorialCheck.Pattern.Group
import FactorialCheck.Pattern.Nesting

/-!
# Reading patterns

A pattern is read from left to right; the first fault ends the reading.
-/

namespace FactorialCheck.Pattern

/-- The branches of a group, or of the whole, as far as they were read. -/
structure Branches where
  /-- Where the first branch begins. -/
  origin : Position
  /-- The complete branches, the last of them first. -/
  complete : List Expression
  /-- Where the current branch begins. -/
  start : Position
  /-- The parts of the current branch, the last of them first. -/
  parts : List Expression

namespace Branches

def begin (position : Position) : Branches :=
  ⟨position, [], position, []⟩

def push (self : Branches) (part : Expression) : Branches :=
  { self with parts := part :: self.parts }

/-- The current branch, which ends at this position. -/
def current (self : Branches) (stop : Position) : Expression :=
  .ofReversed ⟨self.start, stop⟩ self.parts

/-- Ends the current branch; the next one begins behind the bar. -/
def next (self : Branches) (bar behind : Position) : Branches :=
  ⟨self.origin, self.current bar :: self.complete, behind, []⟩

/-- The whole, which ends at this position. -/
def finish (self : Branches) (stop : Position) : Expression :=
  match self.complete with
  | [] => self.current stop
  | complete => .choice ⟨self.origin, stop⟩ (self.current stop :: complete).reverse

end Branches

/-- Takes off the part that an operator repeats. -/
def takeOperand (branches : Branches) (cursor : Cursor) :
    Except Complaint (Expression × Branches) :=
  match branches.parts with
  | [] | .empty _ :: _ | .flags .. :: _ => complain .missingOperand cursor.here
  | part :: parts => .ok (part, { branches with parts := parts })

/-- Goes past a question mark, which makes a repetition match as little as it can. -/
def skipLazy (cursor : Cursor) : Cursor :=
  match cursor.rest with
  | '?' :: _ => cursor.bump
  | _ => cursor

/-- Reads an operator that repeats the part before it. -/
def readRepetition (branches : Branches) (cursor : Cursor) :
    Except Complaint (Branches × Cursor) := do
  let (body, branches) ← takeOperand branches cursor
  let left := skipLazy cursor.bump
  .ok (branches.push (.repetition ⟨body.span.start, left.position⟩ false body), left)

/-- Reads a number of repetitions, which may be faulty, and the white space around it. -/
def readCount (cursor : Cursor) : Except Complaint Nat × Cursor :=
  let isBlank := CharacterClass.whiteSpace.holds
  let inner := cursor.skip (cursor.rest.takeWhile isBlank).length
  let (digits, behind) := inner.collect Char.isDigit
  let span : Span := ⟨inner.position, behind.position⟩
  let count :=
    if digits.isEmpty then complain .missingCount span
    else
      let number := Nat.ofDigitChars 10 digits 0
      if number < UInt32.size then .ok number else complain .largeCount span
  (count, (behind.collect isBlank).2)

/--
Reads the numbers between braces, up to the closing one. A pattern that ends behind the
first number is unclosed, even if the number is faulty. There is no second number if any
number will do.
-/
def readBounds (start : Position) (cursor : Cursor) :
    Except Complaint (Nat × Option Nat × Cursor) :=
  if cursor.rest.isEmpty then complain .unclosedCount ⟨start, cursor.position⟩
  else
    let (low, left) := readCount cursor
    match left.rest with
    | [] => complain .unclosedCount ⟨start, left.position⟩
    | ',' :: _ =>
      let inner := left.advance
      match inner.rest with
      | [] => complain .unclosedCount ⟨start, inner.position⟩
      | '}' :: _ => do
        let low ← low
        .ok (low, none, inner)
      | _ => do
        let low ← low
        let (high, left) := readCount inner
        let high ← high
        .ok (low, some high, left)
    | _ => do
      let low ← low
      .ok (low, some low, left)

/-- Reads a counted repetition of the part before it. -/
def readCountedRepetition (branches : Branches) (cursor : Cursor) :
    Except Complaint (Branches × Cursor) := do
  let (body, branches) ← takeOperand branches cursor
  let start := cursor.position
  let (low, high, closing) ← readBounds start cursor.advance
  match closing.rest with
  | '}' :: _ =>
    let left := skipLazy closing.advance
    if high.any (· < low) then complain .invertedCount ⟨start, left.position⟩
    else
      let span : Span := ⟨body.span.start, left.position⟩
      .ok (branches.push (.repetition span (high == some 0) body), left)
  | _ => complain .unclosedCount ⟨start, closing.position⟩

/--
Reads up to the end of the group that was opened by `opened`, or of the pattern if
none was. Each step takes one off the `fuel`.
-/
def readBranches : Nat → Option Span → List GroupName → Branches → Cursor →
    Except Complaint (Expression × List GroupName × Cursor)
  | 0, _, _, _, cursor => complain .unclosedGroup cursor.here
  | fuel + 1, opened, names, branches, cursor =>
    let cursor := cursor.skipBlanks
    match cursor.rest with
    | [] =>
      match opened with
      | some span => complain .unclosedGroup span
      | none => .ok (branches.finish cursor.position, names, cursor)
    | ')' :: _ =>
      match opened with
      | some _ => .ok (branches.finish cursor.position, names, cursor)
      | none => complain .unopenedGroup cursor.spanned
    | '|' :: _ =>
      let behind := cursor.bump
      readBranches fuel opened names (branches.next cursor.position behind.position) behind
    | '(' :: _ => do
      match ← readOpening names cursor with
      | (.flags span items, names, left) =>
        let extended := (FlagItem.setting? .extended items).getD left.extended
        readBranches fuel opened names (branches.push (.flags span items))
          { left with extended := extended }
      | (.group span items, names, left) =>
        let extended := (FlagItem.setting? .extended items).getD left.extended
        let inner := { left with extended := extended }
        let (body, names, closing) ←
          readBranches fuel (some span) names (.begin inner.position) inner
        let left := { closing with extended := cursor.extended }.bump
        readBranches fuel opened names
          (branches.push (.group ⟨span.start, left.position⟩ items body)) left
    | '[' :: _ => do
      let (content, left) ← readSet (2 * cursor.rest.length + 2) cursor
      readBranches fuel opened names (branches.push (.set content)) left
    | '?' :: _ | '*' :: _ | '+' :: _ => do
      let (branches, left) ← readRepetition branches cursor
      readBranches fuel opened names branches left
    | '{' :: _ => do
      let (branches, left) ← readCountedRepetition branches cursor
      readBranches fuel opened names branches left
    | c :: _ => do
      let (primitive, left) ← readPrimitive c cursor
      readBranches fuel opened names (branches.push (.primitive primitive)) left

/-- The expression that a text writes. -/
def read (text : List Char) : Except Complaint Expression := do
  let (expression, _, _) ←
    readBranches (text.length + 1) none [] (.begin .first) (.start text)
  expression.checkNesting nestingLimit
  .ok expression

end FactorialCheck.Pattern
