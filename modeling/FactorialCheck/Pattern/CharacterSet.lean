import FactorialCheck.Pattern.Escape

/-!
# Sets of characters

What stands between brackets: characters, ranges and classes of them, and sets
in turn, joined by operators.
-/

namespace FactorialCheck.Pattern

/-- Names of classes of ASCII characters. -/
def namedClasses : List String :=
  ["alnum", "alpha", "ascii", "blank", "cntrl", "digit", "graph", "lower", "print", "punct",
   "space", "upper", "word", "xdigit"]

/-- Reads a class that stands by its name between colons and brackets. -/
def namedClass? (cursor : Cursor) : Option (SetItem × Cursor) :=
  match cursor.rest with
  | '[' :: ':' :: more =>
    let negated := more.head? == some '^'
    let body := if negated then more.tail else more
    let name := body.takeWhile (· ≠ ':')
    match body.dropWhile (· ≠ ':') with
    | ':' :: ']' :: after =>
      let left := cursor.skip (cursor.rest.length - after.length)
      if namedClasses.contains (String.ofList name) then
        some (.named ⟨cursor.position, left.position⟩ negated, left)
      else
        none
    | _ => none
  | _ => none

/-- One character of a set, or an escape. -/
def readSetPrimitive (cursor : Cursor) : Except Complaint (Primitive × Cursor) :=
  match cursor.rest with
  | [] => complain .unclosedSet cursor.here
  | '\\' :: _ => readEscape cursor
  | c :: _ => .ok (.literal ⟨cursor.spanned, c, false⟩, cursor.bump)

/-- The end of a range must be one character. -/
def rangeBound : Primitive → Except Complaint Literal
  | .literal written => .ok written
  | primitive => complain .rangeBound primitive.span

/-- Reads an item of a set, or a range if a dash follows that is neither last nor doubled. -/
def readSetItem (opened : Span) (cursor : Cursor) : Except Complaint (SetItem × Cursor) := do
  let (first, left) ← readSetPrimitive cursor
  let left := left.skipBlanks
  match left.rest with
  | [] => complain .unclosedSet opened
  | c :: _ =>
    if c ≠ '-' ∨ left.peek = some ']' ∨ left.peek = some '-' then
      let item ← SetItem.ofPrimitive first
      .ok (item, left)
    else
      let inner := left.advance
      if inner.rest.isEmpty then complain .unclosedSet opened
      else
        let (last, left) ← readSetPrimitive inner
        let lower ← rangeBound first
        let upper ← rangeBound last
        if upper.char < lower.char then
          complain .invertedRange (lower.span.through upper.span)
        else
          .ok (.range lower upper, left)

/-- Reads dashes, which stand for themselves at the beginning of a set. The last comes first. -/
def readDashes (items : List SetItem) (cursor : Cursor) : List SetItem × Cursor :=
  match h : cursor.rest with
  | [] => (items, cursor)
  | c :: _ =>
    have := Cursor.length_advance_lt h
    if c = '-' then readDashes (.literal ⟨cursor.spanned, c, false⟩ :: items) cursor.advance
    else (items, cursor)
termination_by cursor.rest.length

/-- A set of which the beginning was read. -/
structure OpenSet where
  /-- The span of the beginning. -/
  span : Span
  negated : Bool
  /-- Where the items begin. -/
  origin : Position
  /-- The items at the beginning, the last of them first. -/
  items : List SetItem
  cursor : Cursor

/-- Reads the sign of a negated set. -/
def readSetSign (start : Position) (cursor : Cursor) : Except Complaint (Bool × Cursor) :=
  match cursor.rest with
  | '^' :: _ =>
    let left := cursor.advance
    if left.rest.isEmpty then complain .unclosedSet ⟨start, left.position⟩ else .ok (true, left)
  | _ => .ok (false, cursor)

/-- Reads the beginning of a set. A bracket that closes it at once stands for itself. -/
def openSet (cursor : Cursor) : Except Complaint OpenSet := do
  let start := cursor.position
  let inner := cursor.advance
  if inner.rest.isEmpty then complain .unclosedSet ⟨start, inner.position⟩
  else
    let (negated, inner) ← readSetSign start inner
    let (dashes, left) := readDashes [] inner
    match dashes, left.rest with
    | _, [] => complain .unclosedSet ⟨start, start⟩
    | [], ']' :: _ =>
      let closing := left.advance
      if closing.rest.isEmpty then complain .unclosedSet ⟨start, closing.position⟩
      else
        .ok ⟨⟨start, closing.position⟩, negated, inner.position,
          [.literal ⟨left.spanned, ']', false⟩], closing⟩
    | dashes, _ => .ok ⟨⟨start, left.position⟩, negated, inner.position, dashes, left⟩

/-- Joins the left side of an operator, if there is one, with the right side. -/
def joinSides (left : Option SetItem) (right : SetItem) : SetItem :=
  match left with
  | some left => .operation left right
  | none => right

/-- Whether characters begin with an operator on sets. -/
def beginsOperator : List Char → Bool
  | '&' :: '&' :: _ => true
  | '-' :: '-' :: _ => true
  | '~' :: '~' :: _ => true
  | _ => false

mutual

/-- Reads a set, from the bracket on. Each step takes one off the `fuel`. -/
def readSet : Nat → Cursor → Except Complaint (SetItem × Cursor)
  | 0, cursor => complain .unclosedSet cursor.here
  | fuel + 1, cursor => do
    let ⟨opened, negated, origin, items, inner⟩ ← openSet cursor
    let (content, left) ← readSetItems fuel opened none origin items inner
    .ok (.nested ⟨cursor.position, left.position⟩ negated content, left)

/-- Reads the items up to the closing bracket, after those that were read. -/
def readSetItems : Nat → Span → Option SetItem → Position → List SetItem → Cursor →
    Except Complaint (SetItem × Cursor)
  | 0, opened, _, _, _, _ => complain .unclosedSet opened
  | fuel + 1, opened, left, origin, items, cursor =>
    let cursor := cursor.skipBlanks
    match cursor.rest with
    | [] => complain .unclosedSet opened
    | ']' :: _ => .ok (joinSides left (.ofReversed origin items), cursor.bump)
    | '[' :: _ =>
      match namedClass? cursor with
      | some (item, cursor) => readSetItems fuel opened left origin (item :: items) cursor
      | none => do
        let (item, cursor) ← readSet fuel cursor
        readSetItems fuel opened left origin (item :: items) cursor
    | cs =>
      if beginsOperator cs then
        let side := joinSides left (.ofReversed origin items)
        let cursor := cursor.skip 2
        readSetItems fuel opened (some side) cursor.position [] cursor
      else do
        let (item, cursor) ← readSetItem opened cursor
        readSetItems fuel opened left origin (item :: items) cursor

end

end FactorialCheck.Pattern
