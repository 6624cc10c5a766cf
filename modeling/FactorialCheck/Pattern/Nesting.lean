import FactorialCheck.Pattern.Expression

/-!
# Nesting

How deep an expression may be. Only what has parts counts.
-/

namespace FactorialCheck.Pattern

mutual

/-- Checks that a set is nested no deeper than the levels that are left. -/
def SetItem.checkNesting : SetItem → Nat → Except Complaint Unit
  | .nested span _ _, 0 => complain .nesting span
  | .nested _ _ content, left + 1 => content.checkNesting left
  | .union span _, 0 => complain .nesting span
  | .union _ items, left + 1 => checkItemsNesting items left
  | .operation first last, 0 => complain .nesting (first.span.through last.span)
  | .operation first last, left + 1 => do
    first.checkNesting left
    last.checkNesting left
  | _, _ => .ok ()

def checkItemsNesting : List SetItem → Nat → Except Complaint Unit
  | [], _ => .ok ()
  | item :: items, left => do
    item.checkNesting left
    checkItemsNesting items left

end

mutual

/-- Checks that an expression is nested no deeper than the levels that are left. -/
def Expression.checkNesting : Expression → Nat → Except Complaint Unit
  | .set content, left => content.checkNesting left
  | .repetition span _ _, 0 => complain .nesting span
  | .repetition _ _ body, left + 1 => body.checkNesting left
  | .group span _ _, 0 => complain .nesting span
  | .group _ _ body, left + 1 => body.checkNesting left
  | .sequence span _, 0 => complain .nesting span
  | .sequence _ parts, left + 1 => checkPartsNesting parts left
  | .choice span _, 0 => complain .nesting span
  | .choice _ branches, left + 1 => checkPartsNesting branches left
  | _, _ => .ok ()

def checkPartsNesting : List Expression → Nat → Except Complaint Unit
  | [], _ => .ok ()
  | part :: parts, left => do
    part.checkNesting left
    checkPartsNesting parts left

end

end FactorialCheck.Pattern
