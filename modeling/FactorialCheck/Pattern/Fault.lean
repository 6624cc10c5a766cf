import FactorialCheck.Pattern.Span

/-!
# Faults of patterns

What can be wrong with a pattern, and where in the pattern it is.
-/

namespace FactorialCheck.Pattern

/-- Brackets and other constructs can be nested up to this depth. -/
def nestingLimit : Nat := 250

inductive Fault where
  /-- An opening parenthesis without a closing one. -/
  | unclosedGroup
  | unopenedGroup
  | lookAround
  | unclosedName
  | emptyName
  | nameCharacter
  | repeatedName
  | missingFlag
  | unknownFlag
  | repeatedFlag
  | repeatedNegation
  | danglingNegation
  /-- A repetition of nothing. -/
  | missingOperand
  | unclosedCount
  | missingCount
  | largeCount
  | invertedCount
  | unclosedSet
  | invertedRange
  /-- A range that ends in a class of characters. -/
  | rangeBound
  /-- An escape that stands for no character, in a set. -/
  | escapeInSet
  | incompleteEscape
  | unknownEscape
  | backreference
  | hexDigit
  | emptyHex
  /-- A number that is no character's. -/
  | noCharacter
  | propertyName
  | unclosedBoundary
  | unknownBoundary
  | boundaryOrCount
  | nesting
  | unknownProperty
  /-- A character or property beyond ASCII, where bytes are matched. -/
  | unicode
  /-- A shorthand for a class of characters of all scripts. -/
  | shorthand
  /-- Case that is ignored for characters of all scripts. -/
  | caseFolding
  /-- A pattern that matches parts of characters. -/
  | splitCharacter
  deriving DecidableEq, Repr

def Fault.message : Fault → String
  | .unclosedGroup => "unclosed group"
  | .unopenedGroup => "unopened group"
  | .lookAround => "look-around, including look-ahead and look-behind, is not supported"
  | .unclosedName => "unclosed capture group name"
  | .emptyName => "empty capture group name"
  | .nameCharacter => "invalid capture group character"
  | .repeatedName => "duplicate capture group name"
  | .missingFlag => "expected flag but got end of regex"
  | .unknownFlag => "unrecognized flag"
  | .repeatedFlag => "duplicate flag"
  | .repeatedNegation => "flag negation operator repeated"
  | .danglingNegation => "dangling flag negation operator"
  | .missingOperand => "repetition operator missing expression"
  | .unclosedCount => "unclosed counted repetition"
  | .missingCount => "repetition quantifier expects a valid decimal"
  | .largeCount => "decimal literal invalid"
  | .invertedCount => "invalid repetition count range, the start must be <= the end"
  | .unclosedSet => "unclosed character class"
  | .invertedRange => "invalid character class range, the start must be <= the end"
  | .rangeBound => "invalid range boundary, must be a literal"
  | .escapeInSet => "invalid escape sequence found in character class"
  | .incompleteEscape => "incomplete escape sequence, reached end of pattern prematurely"
  | .unknownEscape => "unrecognized escape sequence"
  | .backreference => "backreferences are not supported"
  | .hexDigit => "invalid hexadecimal digit"
  | .emptyHex => "hexadecimal literal empty"
  | .noCharacter => "hexadecimal literal is not a Unicode scalar value"
  | .propertyName => "invalid Unicode character class"
  | .unclosedBoundary =>
    "special word boundary assertion is either unclosed or contains an invalid character"
  | .unknownBoundary =>
    "unrecognized special word boundary assertion, valid choices are: start, end, "
      ++ "start-half or end-half"
  | .boundaryOrCount =>
    "found either the beginning of a special word boundary or a bounded repetition on a \\b "
      ++ "with an opening brace, but no closing brace"
  | .nesting =>
    s!"exceed the maximum number of nested parentheses/brackets ({nestingLimit})"
  | .unknownProperty => "Unicode property not found"
  | .unicode => "Unicode not allowed here"
  | .shorthand =>
    "Unicode-aware Perl class not found (make sure the unicode-perl feature is enabled)"
  | .caseFolding =>
    "Unicode-aware case insensitivity matching is not available "
      ++ "(make sure the unicode-case feature is enabled)"
  | .splitCharacter => "pattern can match invalid UTF-8"

/-- A fault and where it is. -/
structure Complaint where
  fault : Fault
  span : Span
  /-- Where that stands which must not be repeated. -/
  earlier : Option Span
  deriving DecidableEq, Repr

def complain {α : Type} (fault : Fault) (span : Span) : Except Complaint α :=
  .error ⟨fault, span, none⟩

end FactorialCheck.Pattern
