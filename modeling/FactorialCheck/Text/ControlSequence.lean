/-!
# Terminal control sequences

A text for a terminal may hold escape sequences, control sequences, control
strings and operating system commands. `strip` leaves them out, and with them
the control characters that print nothing.
-/

namespace FactorialCheck.ControlSequence

/-- The part of the head of a sequence that is being read. -/
inductive Part where
  | opening
  | parameters
  | intermediates
  deriving DecidableEq, Repr

/-- What the characters read so far have begun. -/
inductive State where
  | plain
  /-- An escape character. -/
  | escape
  /-- An escape sequence with intermediate characters. -/
  | longEscape
  | control (part : Part)
  /-- A control sequence that means nothing; its last character is still to come. -/
  | malformed
  /-- The head of a device control string. -/
  | device (part : Part)
  /-- A control string. -/
  | string
  /-- An operating system command. -/
  | command
  deriving DecidableEq, Repr

def isIntermediate (c : Char) : Bool :=
  0x20 ≤ c.toNat && c.toNat ≤ 0x2f

def isParameter (c : Char) : Bool :=
  0x30 ≤ c.toNat && c.toNat ≤ 0x3f

/-- A parameter that may stand only in front of the others. -/
def isPrivate (c : Char) : Bool :=
  0x3c ≤ c.toNat && c.toNat ≤ 0x3f

def isFinal (c : Char) : Bool :=
  0x40 ≤ c.toNat && c.toNat ≤ 0x7e

/-- Tabs, line ends and form feeds, the control characters that are printed. -/
def isFormat (c : Char) : Bool :=
  c == '\t' || c == '\n' || c == '\x0c' || c == '\r'

/-- A control string lasts until the byte `9c`, be it in the middle of a character. -/
def endsString (c : Char) : Bool :=
  (String.utf8EncodeChar c).contains 0x9c

/-- The state after one more character of a head. -/
def nextInHead (goOn : Part → State) (broken finished : State) (part : Part) (c : Char) : State :=
  if isFinal c then finished
  else if isIntermediate c then goOn .intermediates
  else if isParameter c then
    match part with
    | .opening => goOn .parameters
    | .parameters => if isPrivate c then broken else goOn .parameters
    | .intermediates => broken
  else goOn part

/-- The state after the character behind an escape character. -/
def nextInEscape (c : Char) : State :=
  match c with
  | '[' => .control .opening
  | ']' => .command
  | 'P' => .device .opening
  | 'X' | '^' | '_' => .string
  | c =>
    if isIntermediate c then .longEscape
    else if isParameter c || isFinal c then .plain
    else .escape

/-- The state after a character that is not printed. -/
def nextInState (s : State) (c : Char) : State :=
  match s with
  | .plain => .plain
  | .escape => nextInEscape c
  | .longEscape => if isParameter c || isFinal c then .plain else .longEscape
  | .control part => nextInHead .control .malformed .plain part c
  | .malformed => if isFinal c then .plain else .malformed
  | .device part => nextInHead .device .string .string part c
  | .string => if endsString c then .plain else .string
  | .command => if c = '\x07' then .plain else .command

/-- Whether a character is printed, after which the text is plain. -/
def prints (s : State) (c : Char) : Bool :=
  match s with
  | .plain => isFormat c || 0x20 ≤ c.toNat && c.toNat ≠ 0x7f
  | .escape | .longEscape | .control _ | .malformed => isFormat c
  | .device _ | .string | .command => false

/--
The state after a character, wherever it stands: a cancel or a substitute
breaks off whatever was begun, and an escape character begins anew.
-/
def next (s : State) (c : Char) : State :=
  if c = '\x18' ∨ c = '\x1a' then .plain
  else if c = '\x1b' then .escape
  else if prints s c then .plain
  else nextInState s c

/-- The characters that are printed from a state on. -/
def printed (s : State) : List Char → List Char
  | [] => []
  | c :: rest => if prints s c then c :: printed (next s c) rest else printed (next s c) rest

/-- The text without what a terminal would take for control. -/
def strip (text : String) : String :=
  String.ofList (printed .plain text.toList)

end FactorialCheck.ControlSequence
