import FactorialCheck.Pattern.Fault
import FactorialCheck.Text.Lines

/-!
# Showing faults

A complaint is shown under the lines of the pattern, with marks below the
characters that it is about.
-/

namespace FactorialCheck.Pattern

namespace Complaint

/-- All that the complaint is about, from left to right. -/
def spans (self : Complaint) : List Span :=
  self.earlier.toList ++ [self.span]

/-- Marks under the spans of one line, behind the columns that are marked already. -/
def marks (done : Nat) : List Span → List Char
  | [] => []
  | span :: spans =>
    let blanks := span.start.column - 1 - done
    let carets := max 1 (span.stop.column - span.start.column)
    List.replicate blanks ' ' ++ List.replicate carets '^' ++ marks (done + blanks + carets) spans

/-- Width of the line numbers. A single line has none. -/
def numberWidth (text lines : List (List Char)) : Nat :=
  let count := max text.length lines.length
  if count ≤ 1 then 0 else count.repr.length

/-- What stands in front of a line. -/
def margin (width number : Nat) : List Char :=
  if width = 0 then List.replicate 4 ' '
  else
    let digits := number.repr.toList
    List.replicate (width - digits.length) ' ' ++ digits ++ [':', ' ']

/-- A line of the pattern, and the marks below it if it has any. -/
def shownLine (self : Complaint) (width number : Nat) (line : List Char) : List String :=
  let spans := self.spans.filter fun span => span.isOneLine && span.start.line == number
  let shown := String.ofList (margin width number ++ line)
  if spans.isEmpty then [shown]
  else
    let indent := if width = 0 then 4 else width + 2
    [shown, String.ofList (List.replicate indent ' ' ++ marks 0 spans)]

def shownLines (self : Complaint) (width : Nat) (lines : List (List Char)) : List String :=
  (lines.mapIdx fun i line => self.shownLine width (i + 1) line).flatten

/-- Where a span is that has more than one line. -/
def place (span : Span) : String :=
  s!"on line {span.start.line} (column {span.start.column}) through line {span.stop.line} "
    ++ s!"(column {span.stop.column - 1})"

def divider : String :=
  String.ofList (List.replicate 79 '~')

/-- The complaint as lines, about the pattern of this text. -/
def lines (self : Complaint) (text : List Char) : List String :=
  let lines := linesOf text
  let shown := self.shownLines (numberWidth (pieces '\n' text) lines) lines
  let message := "error: " ++ self.fault.message
  if text.contains '\n' then
    let places := (self.spans.filter fun span => !span.isOneLine).map place
    ["regex parse error:", divider] ++ shown ++ [divider] ++ places ++ [message]
  else
    "regex parse error:" :: shown ++ [message]

def display (self : Complaint) (text : List Char) : String :=
  String.intercalate "\n" (self.lines text)

end Complaint

end FactorialCheck.Pattern
