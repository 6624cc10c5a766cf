/-!
# Positions and spans

Where something stands in a pattern, by lines and columns that are counted from
one.
-/

namespace FactorialCheck.Pattern

structure Position where
  line : Nat
  column : Nat
  deriving DecidableEq, Repr

namespace Position

/-- Where a text begins. -/
def first : Position :=
  ⟨1, 1⟩

/-- The position behind a character. -/
def after (self : Position) (c : Char) : Position :=
  if c = '\n' then ⟨self.line + 1, 1⟩ else ⟨self.line, self.column + 1⟩

end Position

/-- From one position to the position behind the last character. -/
structure Span where
  start : Position
  stop : Position
  deriving DecidableEq, Repr

namespace Span

def isOneLine (self : Span) : Bool :=
  self.start.line == self.stop.line

/-- From the beginning of one span to the end of another. -/
def through (first last : Span) : Span :=
  ⟨first.start, last.stop⟩

end Span

end FactorialCheck.Pattern
