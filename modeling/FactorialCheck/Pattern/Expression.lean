import FactorialCheck.Pattern.Fault

/-!
# Expressions

What a pattern is made of, as far as it matters to whether it can be matched.
-/

namespace FactorialCheck.Pattern

inductive Flag where
  | ignoreCase
  | multiLine
  | dotMatchesAll
  | swapGreed
  | unicode
  | carriageReturns
  | extended
  deriving DecidableEq, Repr

def Flag.ofLetter? : Char → Option Flag
  | 'i' => some .ignoreCase
  | 'm' => some .multiLine
  | 's' => some .dotMatchesAll
  | 'U' => some .swapGreed
  | 'u' => some .unicode
  | 'R' => some .carriageReturns
  | 'x' => some .extended
  | _ => none

/-- A flag, or the sign that those behind it are cleared. -/
inductive FlagItem where
  | negation
  | flag (flag : Flag)
  deriving DecidableEq, Repr

/-- Whether the items set or clear a flag. -/
def FlagItem.setting? (wanted : Flag) : List FlagItem → Option Bool
  | [] => none
  | .negation :: items => (setting? wanted items).map fun _ => false
  | .flag found :: items => if found = wanted then some true else setting? wanted items

/-- One character, and whether it is written as a byte, by two hexadecimal digits. -/
structure Literal where
  span : Span
  char : Char
  isByte : Bool
  deriving DecidableEq, Repr

inductive Primitive where
  | literal (literal : Literal)
  | dot (span : Span)
  /-- A place in the text: the edge of a word, or of a line or the text. -/
  | place (span : Span) (isWordEdge : Bool)
  /-- Digits, white space or word characters, or all others. -/
  | shorthand (span : Span) (negated : Bool)
  | property (span : Span)
  deriving DecidableEq, Repr

def Primitive.span : Primitive → Span
  | .literal written => written.span
  | .dot span => span
  | .place span _ => span
  | .shorthand span _ => span
  | .property span => span

/-- What stands in a set of characters, between brackets. -/
inductive SetItem where
  | nothing (span : Span)
  | literal (literal : Literal)
  | range (first last : Literal)
  /-- A class that has a name, of ASCII characters. -/
  | named (span : Span) (negated : Bool)
  | shorthand (span : Span) (negated : Bool)
  | property (span : Span)
  | nested (span : Span) (negated : Bool) (content : SetItem)
  | union (span : Span) (items : List SetItem)
  /-- An intersection or difference of two sets. -/
  | operation (left right : SetItem)

namespace SetItem

def span : SetItem → Span
  | .nothing span => span
  | .literal written => written.span
  | .range first last => first.span.through last.span
  | .named span _ => span
  | .shorthand span _ => span
  | .property span => span
  | .nested span _ _ => span
  | .union span _ => span
  | .operation left right => left.span.through right.span

/-- What stands alone in a set must be a class of characters or one of them. -/
def ofPrimitive : Primitive → Except Complaint SetItem
  | .literal written => .ok (.literal written)
  | .shorthand span negated => .ok (.shorthand span negated)
  | .property span => .ok (.property span)
  | .dot span => complain .escapeInSet span
  | .place span _ => complain .escapeInSet span

/-- The union of items, of which the last comes first. -/
def ofReversed (origin : Position) (items : List SetItem) : SetItem :=
  match items with
  | [] => .nothing ⟨origin, origin⟩
  | [item] => item
  | last :: more =>
    match more.getLast? with
    | some first => .union (first.span.through last.span) items.reverse
    | none => last

end SetItem

inductive Expression where
  | empty (span : Span)
  /-- Flags for what follows in the same group. -/
  | flags (span : Span) (items : List FlagItem)
  | primitive (primitive : Primitive)
  | set (content : SetItem)
  /-- A repetition, and whether it is one of zero times. -/
  | repetition (span : Span) (isVoid : Bool) (body : Expression)
  | group (span : Span) (items : List FlagItem) (body : Expression)
  | sequence (span : Span) (parts : List Expression)
  | choice (span : Span) (branches : List Expression)

namespace Expression

def span : Expression → Span
  | .empty span => span
  | .flags span _ => span
  | .primitive single => single.span
  | .set content => content.span
  | .repetition span _ _ => span
  | .group span _ _ => span
  | .sequence span _ => span
  | .choice span _ => span

/-- The sequence of expressions, of which the last comes first. -/
def ofReversed (span : Span) (parts : List Expression) : Expression :=
  match parts with
  | [] => .empty span
  | [part] => part
  | parts => .sequence span parts.reverse

end Expression

end FactorialCheck.Pattern
