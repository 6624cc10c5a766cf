import FactorialCheck.Pattern.Cursor
import FactorialCheck.Pattern.Expression
import FactorialCheck.Text.Numeric

/-!
# Groups

What follows an opening parenthesis: a name, flags, or nothing.
-/

namespace FactorialCheck.Pattern

def startsName (c : Char) : Bool :=
  c == '_' || CharacterClass.alphabetic.holds c

def continuesName (c : Char) : Bool :=
  c == '_' || c == '.' || c == '[' || c == ']' || isLetterOrNumber c

/-- Where the first character is that a name cannot have there. -/
def nameFault? : List Char → Option Nat
  | [] => none
  | c :: rest =>
    if startsName c then (rest.findIdx? fun c => !continuesName c).map (· + 1) else some 0

/-- A name of a group and where it stands. -/
structure GroupName where
  text : List Char
  span : Span
  deriving DecidableEq, Repr

/-- Reads the name of a group up to the angle bracket that closes it. -/
def readName (cursor : Cursor) : Except Complaint (GroupName × Cursor) :=
  let text := cursor.rest.takeWhile (· ≠ '>')
  match nameFault? text with
  | some count => complain .nameCharacter (cursor.skip count).spanned
  | none =>
    let closing := cursor.skip text.length
    if closing.rest.isEmpty then complain .unclosedName closing.here
    else if text.isEmpty then complain .emptyName cursor.here
    else .ok (⟨text, ⟨cursor.position, closing.position⟩⟩, closing.bump)

/-- Adds a name to those of the groups before. -/
def addName (names : List GroupName) (name : GroupName) : Except Complaint (List GroupName) :=
  match names.find? fun earlier => earlier.text == name.text with
  | some earlier => .error ⟨.repeatedName, name.span, some earlier.span⟩
  | none => .ok (name :: names)

def readFlag (c : Char) (span : Span) : Except Complaint FlagItem :=
  if c = '-' then .ok .negation
  else
    match Flag.ofLetter? c with
    | some flag => .ok (.flag flag)
    | none => complain .unknownFlag span

def repetitionFault : FlagItem → Fault
  | .negation => .repeatedNegation
  | .flag _ => .repeatedFlag

/-- Reads flags up to a colon or a closing parenthesis, after those that were read. -/
def readFlags (items : List (FlagItem × Span)) (cursor : Cursor) :
    Except Complaint (List FlagItem × Cursor) :=
  match h : cursor.rest with
  | [] => complain .missingFlag cursor.here
  | c :: _ =>
    have := Cursor.length_bump_lt h
    if c = ':' ∨ c = ')' then
      match items.getLast? with
      | some (.negation, span) => complain .danglingNegation span
      | _ => .ok (items.map Prod.fst, cursor)
    else
      match readFlag c cursor.spanned with
      | .error complaint => .error complaint
      | .ok item =>
        match items.find? fun earlier => earlier.1 == item with
        | some (_, earlier) =>
          .error ⟨repetitionFault item, cursor.spanned, some earlier⟩
        | none => readFlags (items ++ [(item, cursor.spanned)]) cursor.bump
termination_by cursor.rest.length

/-- What a parenthesis opens. -/
inductive Opening where
  /-- Flags for what follows; the parenthesis is closed. -/
  | flags (span : Span) (items : List FlagItem)
  /-- A group, which begins with this span. -/
  | group (span : Span) (items : List FlagItem)
  deriving DecidableEq, Repr

/-- How groups begin that look ahead or behind. -/
def lookArounds : List (List Char) :=
  [['?', '='], ['?', '!'], ['?', '<', '='], ['?', '<', '!']]

/-- Reads flags behind a question mark, and whether a group with them follows. -/
def readFlagGroup (opened : Span) (cursor : Cursor) : Except Complaint (Opening × Cursor) :=
  let inner := cursor.bump
  if inner.rest.isEmpty then complain .unclosedGroup opened
  else do
    let (items, left) ← readFlags [] inner
    match left.rest with
    | ')' :: _ =>
      if items.isEmpty then complain .missingOperand cursor.here
      else .ok (.flags ⟨opened.start, left.bump.position⟩ items, left.bump)
    | _ => .ok (.group opened items, left.bump)

/-- Reads what follows an opening parenthesis, from that on. -/
def readOpening (names : List GroupName) (cursor : Cursor) :
    Except Complaint (Opening × List GroupName × Cursor) :=
  let opened := cursor.spanned
  let inner := cursor.advance
  match lookArounds.find? fun beginning => beginning.isPrefixOf inner.rest with
  | some beginning =>
    complain .lookAround ⟨opened.start, (inner.skip beginning.length).position⟩
  | none =>
    match inner.rest with
    | '?' :: 'P' :: '<' :: _ => do
      let (name, left) ← readName (inner.skip 3)
      let names ← addName names name
      .ok (.group opened [], names, left)
    | '?' :: '<' :: _ => do
      let (name, left) ← readName (inner.skip 2)
      let names ← addName names name
      .ok (.group opened [], names, left)
    | '?' :: _ => do
      let (opening, left) ← readFlagGroup opened inner
      .ok (opening, names, left)
    | _ => .ok (.group opened [], names, inner)

end FactorialCheck.Pattern
