import FactorialCheck.Pattern.Span
import FactorialCheck.Text.WhiteSpace

/-!
# Cursors

A place in a pattern that is being read. In an extended pattern white space
and comments are passed over.
-/

namespace FactorialCheck.Pattern

structure Cursor where
  /-- The characters still to be read. -/
  rest : List Char
  position : Position
  extended : Bool
  deriving DecidableEq, Repr

namespace Cursor

def start (text : List Char) : Cursor :=
  ⟨text, .first, false⟩

/-- Goes past one character. -/
def bump (self : Cursor) : Cursor :=
  match self.rest with
  | [] => self
  | c :: rest => { self with rest := rest, position := self.position.after c }

/-- Goes past a number of characters. -/
def skip : Nat → Cursor → Cursor
  | 0, self => self
  | n + 1, self => skip n self.bump

/-- The span of nothing at the cursor. -/
def here (self : Cursor) : Span :=
  ⟨self.position, self.position⟩

/-- The span of the next character. -/
def spanned (self : Cursor) : Span :=
  ⟨self.position, self.bump.position⟩

/-- What is left behind white space and comments, which begin with `#` and end with their line. -/
def passBlanks (comment : Bool) : List Char → Position → List Char × Position
  | [], position => ([], position)
  | c :: rest, position =>
    if comment then passBlanks (c ≠ '\n') rest (position.after c)
    else if CharacterClass.whiteSpace.holds c then passBlanks false rest (position.after c)
    else if c = '#' then passBlanks true rest (position.after c)
    else (c :: rest, position)

/-- Goes past what is passed over in an extended pattern. -/
def skipBlanks (self : Cursor) : Cursor :=
  if self.extended then
    let (rest, position) := passBlanks false self.rest self.position
    { self with rest := rest, position := position }
  else
    self

/-- Goes past one character and the blanks behind it. -/
def advance (self : Cursor) : Cursor :=
  self.bump.skipBlanks

theorem length_passBlanks_le (comment : Bool) (cs : List Char) (position : Position) :
    (passBlanks comment cs position).1.length ≤ cs.length := by
  induction cs generalizing comment position with
  | nil => exact Nat.le_refl _
  | cons c rest ih =>
    unfold passBlanks
    split
    · exact Nat.le_succ_of_le (ih _ _)
    · split
      · exact Nat.le_succ_of_le (ih _ _)
      · split
        · exact Nat.le_succ_of_le (ih _ _)
        · exact Nat.le_refl _

theorem length_skipBlanks_le (self : Cursor) :
    self.skipBlanks.rest.length ≤ self.rest.length := by
  unfold skipBlanks
  split
  · exact length_passBlanks_le false self.rest self.position
  · exact Nat.le_refl _

theorem length_bump_lt {self : Cursor} {c : Char} {cs : List Char} (h : self.rest = c :: cs) :
    self.bump.rest.length < self.rest.length := by
  simp [bump, h]

theorem length_advance_lt {self : Cursor} {c : Char} {cs : List Char} (h : self.rest = c :: cs) :
    self.advance.rest.length < self.rest.length :=
  Nat.lt_of_le_of_lt (length_skipBlanks_le self.bump) (length_bump_lt h)

/-- The characters of a kind, with blanks behind each of them, and the cursor behind these. -/
def collect (isWanted : Char → Bool) (self : Cursor) : List Char × Cursor :=
  match h : self.rest with
  | [] => ([], self)
  | c :: _ =>
    have := length_advance_lt h
    if isWanted c then
      let (more, left) := collect isWanted self.advance
      (c :: more, left)
    else
      ([], self)
termination_by self.rest.length

/--
The character behind white space and at most one `#` that follow the next one, or
else the character right behind it.
-/
def peekPastBlanks (comment : Bool) : List Char → Option Char
  | [] => none
  | c :: rest =>
    if CharacterClass.whiteSpace.holds c then peekPastBlanks comment rest
    else if c = '#' && !comment then peekPastBlanks true rest
    else some c

/-- The character after the next one. -/
def peek (self : Cursor) : Option Char :=
  if self.extended then (peekPastBlanks false self.rest.tail).or self.rest.tail.head?
  else self.rest.tail.head?

end Cursor

end FactorialCheck.Pattern
