import FactorialCheck.Text.GraphemeExtend
import FactorialCheck.Text.Unprintable

/-!
# Quoted text

A text between double quotes on one line: characters that do not show by
themselves, or that would end the quotation, are escaped.
-/

namespace FactorialCheck.Quoted

def hexadecimal (n : Nat) : List Char :=
  Nat.toDigits 16 n

/-- The escape that names a code point. -/
def codePoint (c : Char) : List Char :=
  ['\\', 'u', '{'] ++ hexadecimal c.toNat ++ ['}']

/-- The halfwidth sound marks, which extend a grapheme and have a width of their own. -/
def isSoundMark (c : Char) : Bool :=
  c == '\uff9e' || c == '\uff9f'

/-- A character that does not show by itself. -/
def isHidden (c : Char) : Bool :=
  CharacterClass.unprintable.holds c
    || CharacterClass.graphemeExtend.holds c && !isSoundMark c

/-- How a character is written inside the quotes. -/
def escape (c : Char) : List Char :=
  match c with
  | '\x00' => ['\\', '0']
  | '\t' => ['\\', 't']
  | '\r' => ['\\', 'r']
  | '\n' => ['\\', 'n']
  | '"' => ['\\', '"']
  | '\\' => ['\\', '\\']
  | c => if isHidden c then codePoint c else [c]

/-- The characters between the quotes. -/
def body (text : String) : List Char :=
  text.toList.flatMap escape

def quote (text : String) : String :=
  String.ofList ('"' :: body text ++ ['"'])

theorem toList_quote (text : String) :
    (quote text).toList = '"' :: body text ++ ['"'] := by
  simp [quote]

end FactorialCheck.Quoted
