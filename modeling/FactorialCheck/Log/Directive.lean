import FactorialCheck.Log.FieldCondition
import FactorialCheck.Log.Level
import FactorialCheck.Text.Bytes
import FactorialCheck.Text.Numeric
import FactorialCheck.Text.WhiteSpace

/-!
# Directives

A directive says up to which level something is logged. It is a threshold, or
`target[span{field=value}]=threshold`, of which the target, the brackets, what
stands in them, and the threshold may be left out.

The marks are found in the directive without the blanks around it, and the pieces
are taken from the directive with them, at the same offsets. Blanks before a
directive so move its pieces, and an offset can come to lie inside a character. A
piece cannot be taken there: the reading aborts, and the program with it.
-/

namespace FactorialCheck.Log

structure Directive where
  /-- What the targets begin with. -/
  target : String
  /-- The span that is to be entered. -/
  span : Option String
  field : Option FieldCondition
  threshold : Threshold
  deriving DecidableEq, Repr

inductive FilterError where
  /-- A text that is not built like a directive. -/
  | malformed
  /-- A text after `=` that is no threshold. -/
  | unknownThreshold
  /-- A field of which the value is refused. -/
  | refusedValue (rejection : Pattern.Rejection)
  deriving DecidableEq, Repr

namespace FilterError

def message : FilterError → String
  | .malformed => "invalid filter directive"
  | .unknownThreshold =>
    "error parsing level filter: expected one of \"off\", \"error\", \"warn\", \"info\", "
      ++ "\"debug\", \"trace\", or a number 0-5"
  | .refusedValue rejection => "invalid field filter: " ++ rejection.message

/-- The messages of what an error was caused by. -/
def reasons : FilterError → List String
  | .malformed => []
  | .unknownThreshold => [FilterError.unknownThreshold.message]
  | .refusedValue rejection => rejection.message :: rejection.reasons

end FilterError

/-- How the reading of a filter ends without a filter. -/
inductive Halt where
  | refused (error : FilterError)
  /-- A piece was to be cut inside a character. -/
  | aborted
  deriving DecidableEq, Repr

/-- A place in a text between two of its characters, in the form without blanks around it. -/
structure Cutting where
  /-- The text, from which the pieces are taken. -/
  text : List Char
  /-- The bytes before the place. -/
  offset : Nat
  /-- What stands behind the place in the form without blanks. -/
  marked : List Char
  deriving DecidableEq, Repr

namespace Cutting

def start (text : List Char) : Cutting :=
  ⟨text, 0, trim text⟩

/-- The first of the marks. -/
def upTo (isMark : Char → Bool) (self : Cutting) : Cutting :=
  { self with
    offset := self.offset + byteCount (self.marked.takeWhile fun c => !isMark c)
    marked := self.marked.dropWhile fun c => !isMark c }

/-- The place behind a mark, which is one byte long. -/
def skip (self : Cutting) : Cutting :=
  { self with offset := self.offset + 1, marked := self.marked.tail }

/-- The piece up to a later place. -/
def pieceTo (self later : Cutting) : Except Halt String :=
  match slice? self.offset later.offset self.text with
  | some piece => .ok (String.ofList piece)
  | none => .error .aborted

/-- All that is left of the text, blanks and all. -/
def rest (self : Cutting) : Except Halt String :=
  match cutAt? self.offset self.text with
  | some (_, left) => .ok (String.ofList left)
  | none => .error .aborted

end Cutting

namespace Directive

/-- What a target can begin with. -/
def opensTarget (c : Char) : Bool :=
  c == '-' || c == ':' || c == '_' || isLetterOrNumber c

/-- A directive without marks: a threshold for all targets, or a target of which all is logged. -/
def bare (text : String) : Directive :=
  match Threshold.ofText? text with
  | some threshold => ⟨"", none, none, threshold⟩
  | none => ⟨text, none, none, .upTo .trace⟩

/-- Reads the threshold after `=`. Without one all is logged. -/
def readThreshold (text : String) : Except Halt Threshold :=
  if text = "" then .ok (.upTo .trace)
  else
    match Threshold.ofText? text with
    | some threshold => .ok threshold
    | none => .error (.refused .unknownThreshold)

/-- Reads what follows the closing bracket. -/
def readEnd (target : String) (span : Option String) (field : Option FieldCondition)
    (cutting : Cutting) : Except Halt Directive :=
  match cutting.marked with
  | [] => .ok ⟨target, span, field, .upTo .trace⟩
  | '=' :: _ => do
    let text ← cutting.skip.rest
    (readThreshold text).map (Directive.mk target span field)
  | _ => .error (.refused .malformed)

/-- Reads what stands between braces, of which there must be something. -/
def readCondition (text : String) : Except Halt FieldCondition :=
  if text = "" then .error (.refused .malformed)
  else (FieldCondition.ofText text).mapError fun rejection => .refused (.refusedValue rejection)

/-- Reads what follows the opening brace: the field, the closing brace and the rest. -/
def readField (target : String) (span : Option String) (cutting : Cutting) :
    Except Halt Directive :=
  let mark := cutting.upTo (· == '}')
  match mark.marked with
  | '}' :: more => do
    let text ← cutting.pieceTo mark
    let condition ← readCondition text
    match more with
    | ']' :: _ => readEnd target span (some condition) mark.skip.skip
    | _ => .error (.refused .malformed)
  | _ => .error (.refused .malformed)

/-- Reads what follows the opening bracket: the span, the field and the rest. -/
def readSpan (target : String) (cutting : Cutting) : Except Halt Directive :=
  let mark := cutting.upTo fun c => c == ']' || c == '{'
  match mark.marked with
  | ']' :: _ => do
    let span ← cutting.pieceTo mark
    readEnd target (some span) none mark.skip
  | '{' :: _ => do
    let span ← cutting.pieceTo mark
    readField target (if span = "" then none else some span) mark.skip
  | _ => .error (.refused .malformed)

/-- Reads a directive that begins with a target. -/
def readTarget (cutting : Cutting) : Except Halt Directive :=
  let mark := cutting.upTo fun c => c == '=' || c == '['
  match mark.marked with
  | '=' :: _ => do
    let target ← cutting.pieceTo mark
    let text ← mark.skip.rest
    (readThreshold text).map (Directive.mk target none none)
  | '[' :: _ => do
    let target ← cutting.pieceTo mark
    readSpan target mark.skip
  | _ => cutting.rest.map bare

/-- Reads a directive. -/
def ofText (text : List Char) : Except Halt Directive :=
  let cutting := Cutting.start text
  match cutting.marked with
  | [] => .error (.refused .malformed)
  | '[' :: _ => readSpan "" cutting.skip
  | c :: _ => if opensTarget c then readTarget cutting else .error (.refused .malformed)

end Directive

end FactorialCheck.Log
