import FactorialCheck.Pattern.Expression

/-!
# What can be matched

Texts are matched character by character, without knowledge of the classes and
the case of characters beyond ASCII. What needs such knowledge, or would match
a part of a character, is refused.
-/

namespace FactorialCheck.Pattern

/-- The flags that matter. -/
structure Mode where
  ignoreCase : Bool
  unicode : Bool
  deriving DecidableEq, Repr

namespace Mode

/-- The mode at the beginning of a pattern. -/
def initial : Mode :=
  ⟨false, true⟩

def update (self : Mode) (items : List FlagItem) : Mode :=
  ⟨(FlagItem.setting? .ignoreCase items).getD self.ignoreCase,
    (FlagItem.setting? .unicode items).getD self.unicode⟩

/-- Whether the case of all characters would have to be known. -/
def foldsCase (self : Mode) : Bool :=
  self.ignoreCase && self.unicode

end Mode

/-- A byte that is not ASCII is a part of a character. -/
def checkByte (mode : Mode) (literal : Literal) : Except Complaint Unit :=
  if !mode.unicode && literal.isByte && 0x80 ≤ literal.char.toNat then
    complain .splitCharacter literal.span
  else
    .ok ()

def checkShorthand (mode : Mode) (span : Span) (negated : Bool) : Except Complaint Unit :=
  if mode.unicode then complain .shorthand span
  else if negated then complain .splitCharacter span
  else .ok ()

def checkProperty (mode : Mode) (span : Span) : Except Complaint Unit :=
  complain (if mode.unicode then .unknownProperty else .unicode) span

def Primitive.check (mode : Mode) : Primitive → Except Complaint Unit
  | .literal written => do
    checkByte mode written
    if mode.foldsCase then complain .caseFolding written.span else .ok ()
  | .dot span => if mode.unicode then .ok () else complain .splitCharacter span
  | .place .. => .ok ()
  | .shorthand span negated => checkShorthand mode span negated
  | .property span => checkProperty mode span

namespace SetItem

/-- A character of a set of bytes must be one byte long. -/
def checkLiteral (mode : Mode) (literal : Literal) : Except Complaint Unit := do
  checkByte mode literal
  if !mode.unicode && 0x80 ≤ literal.char.toNat then complain .unicode literal.span else .ok ()

/--
Checks a set that is complete: one that holds characters of its own needs their
case, and what is not in a set of bytes are parts of characters.
-/
def checkComplete (mode : Mode) (span : Span) (negated holdsOwn : Bool) :
    Except Complaint Unit :=
  if mode.unicode then
    if mode.ignoreCase && holdsOwn then complain .caseFolding span else .ok ()
  else if negated then complain .splitCharacter span
  else .ok ()

mutual

/-- Checks an item, and tells whether it adds characters of its own, that are in no set within. -/
def check (mode : Mode) : SetItem → Except Complaint Bool
  | .nothing _ => .ok false
  | .literal written => do
    checkLiteral mode written
    .ok true
  | .range first last => do
    checkLiteral mode first
    checkLiteral mode last
    .ok true
  | .named span negated => do
    checkComplete mode span negated true
    .ok true
  | .shorthand span negated => do
    checkShorthand mode span negated
    .ok true
  | .property span => do
    checkProperty mode span
    .ok true
  | .nested span negated content => do
    let holdsOwn ← content.check mode
    checkComplete mode span negated holdsOwn
    .ok false
  | .union _ items => checkItems mode items
  | .operation left right => do
    let leftHoldsOwn ← left.check mode
    let rightHoldsOwn ← right.check mode
    if mode.foldsCase && rightHoldsOwn then complain .caseFolding right.span
    else if mode.foldsCase && leftHoldsOwn then complain .caseFolding left.span
    else .ok false

def checkItems (mode : Mode) : List SetItem → Except Complaint Bool
  | [] => .ok false
  | item :: items => do
    let first ← item.check mode
    let more ← checkItems mode items
    .ok (first || more)

end

end SetItem

/-- What is known of a pattern behind one of its parts. -/
structure Survey where
  mode : Mode
  /-- Whether the edges of words of all scripts would have to be found. -/
  findsWords : Bool
  deriving DecidableEq, Repr

mutual

/-- Checks a part of a pattern, which may set flags for the parts behind it. -/
def Expression.survey : Expression → Survey → Except Complaint Survey
  | .empty _, known => .ok known
  | .flags _ items, known => .ok { known with mode := known.mode.update items }
  | .primitive (.place _ true), known =>
    .ok { known with findsWords := known.findsWords || known.mode.unicode }
  | .primitive single, known => do
    single.check known.mode
    .ok known
  | .set content, known => do
    let _ ← content.check known.mode
    .ok known
  | .repetition _ isVoid body, known => do
    let found ← body.survey known
    .ok (if isVoid then known else found)
  | .group _ items body, known => do
    let found ← body.survey { known with mode := known.mode.update items }
    .ok { found with mode := known.mode }
  | .sequence _ parts, known => surveyAll parts known
  | .choice _ branches, known => surveyAll branches known

def surveyAll : List Expression → Survey → Except Complaint Survey
  | [], known => .ok known
  | part :: parts, known => do
    let known ← part.survey known
    surveyAll parts known

end

/-- Checks a whole pattern, and tells whether the edges of words would have to be found. -/
def Expression.findsWords (expression : Expression) : Except Complaint Bool := do
  let found ← expression.survey ⟨.initial, false⟩
  .ok found.findsWords

end FactorialCheck.Pattern
