import FactorialCheck.Text.Hexadecimal
import FactorialCheck.Text.Quoted

/-!
# Reading quotations back

Between its quotes a text has no control characters, and its closing quote is the first
one that is not escaped. So the first quotation in a text can be read back, whatever
characters were quoted.
-/

namespace FactorialCheck.Quoted

/-- The control characters of ASCII. -/
def IsControl (c : Char) : Prop :=
  c.toNat < 0x20 ∨ c.toNat = 0x7f

instance (c : Char) : Decidable (IsControl c) :=
  inferInstanceAs (Decidable (_ ∨ _))

/-! ## Hexadecimal numbers -/

/-- Hexadecimal digits and the number they write. -/
inductive HexDigits : List Char → Nat → Prop where
  | nil : HexDigits [] 0
  | concat {cs : List Char} {value digit : Nat} {c : Char} :
      HexDigits cs value → hexDigit? c = some digit → HexDigits (cs ++ [c]) (16 * value + digit)

theorem hexDigits_hexadecimal (n : Nat) : HexDigits (hexadecimal n) n := by
  induction n using Nat.strongRecOn with
  | ind n ih =>
    rw [hexadecimal]
    by_cases hsmall : n < 16
    · have hone := HexDigits.concat .nil (hexDigit?_digitChar n hsmall)
      rw [Nat.toDigits_of_lt_base hsmall]
      rwa [Nat.mul_zero, Nat.zero_add] at hone
    · have hdigit := hexDigit?_digitChar (n % 16) (Nat.mod_lt n (by decide))
      have hmore := HexDigits.concat (ih (n / 16) (by omega)) hdigit
      rw [Nat.div_add_mod] at hmore
      rwa [Nat.toDigits_of_base_le (by decide) (by omega)]

theorem HexDigits.exists_digit {cs : List Char} {value : Nat} (h : HexDigits cs value) {c : Char}
    (hc : c ∈ cs) : ∃ digit, hexDigit? c = some digit := by
  induction h with
  | nil => cases hc
  | concat _ hdigit ih =>
    rcases List.mem_append.mp hc with hbefore | hlast
    · exact ih hbefore
    · rw [List.mem_singleton.mp hlast]
      exact ⟨_, hdigit⟩

/-- All hexadecimal digits stand between `0` and `f`. -/
theorem toNat_of_hexDigit? {c : Char} {digit : Nat} (h : hexDigit? c = some digit) :
    48 ≤ c.toNat ∧ c.toNat ≤ 102 := by
  rw [hexDigit?] at h
  by_cases hdigit : c.isDigit = true
  · have hval : 48 ≤ c.val ∧ c.val ≤ 57 := by simpa [Char.isDigit] using hdigit
    have hbounds : 48 ≤ c.toNat ∧ c.toNat ≤ 57 := hval
    omega
  rw [if_neg hdigit] at h
  by_cases hsmall : 'a' ≤ c ∧ c ≤ 'f'
  · have hbounds : 97 ≤ c.toNat ∧ c.toNat ≤ 102 := hsmall
    omega
  rw [if_neg hsmall] at h
  by_cases hlarge : 'A' ≤ c ∧ c ≤ 'F'
  · have hbounds : 65 ≤ c.toNat ∧ c.toNat ≤ 70 := hlarge
    omega
  rw [if_neg hlarge] at h
  cases h

theorem not_isControl_of_hexDigit? {c : Char} {digit : Nat} (h : hexDigit? c = some digit) :
    ¬ IsControl c := by
  have hbounds := toNat_of_hexDigit? h
  rw [IsControl]
  omega

/-! ## Escapes -/

/-- The character that a letter behind a backslash names. -/
def named? : Char → Option Char
  | '0' => some '\x00'
  | 't' => some '\t'
  | 'r' => some '\r'
  | 'n' => some '\n'
  | '"' => some '"'
  | '\\' => some '\\'
  | _ => none

/-- The ways in which a character is written between the quotes. -/
inductive Escapes : Char → List Char → Prop where
  | named {c letter : Char} : letter ≠ 'u' → ¬ IsControl letter → named? letter = some c →
      Escapes c ['\\', letter]
  | codePoint (c : Char) : Escapes c (codePoint c)
  | plain {c : Char} : c ≠ '"' → c ≠ '\\' → ¬ IsControl c → Escapes c [c]

theorem isHidden_of_isControl {c : Char} (h : IsControl c) : isHidden c = true := by
  rw [isHidden, CharacterClass.unprintable_of_control h, Bool.true_or]

theorem escapes_escape (c : Char) : Escapes c (escape c) := by
  unfold escape
  split
  · exact .named (by decide) (by decide) rfl
  · exact .named (by decide) (by decide) rfl
  · exact .named (by decide) (by decide) rfl
  · exact .named (by decide) (by decide) rfl
  · exact .named (by decide) (by decide) rfl
  · exact .named (by decide) (by decide) rfl
  · rename_i hquote hslash
    by_cases hhidden : isHidden c = true
    · rw [if_pos hhidden]
      exact .codePoint c
    · rw [if_neg hhidden]
      exact .plain hquote hslash fun hcontrol => hhidden (isHidden_of_isControl hcontrol)

theorem Escapes.not_isControl {c d : Char} {cs : List Char} (h : Escapes c cs) (hd : d ∈ cs) :
    ¬ IsControl d := by
  cases h with
  | named _ hletter _ =>
    rcases List.mem_cons.mp hd with rfl | hd
    · decide
    · rwa [List.mem_singleton.mp hd]
  | codePoint =>
    rw [Quoted.codePoint, List.mem_append, List.mem_append, List.mem_singleton] at hd
    rcases hd with (hopening | hdigit) | rfl
    · simp only [List.mem_cons, List.not_mem_nil, or_false] at hopening
      rcases hopening with rfl | rfl | rfl <;> decide
    · obtain ⟨digit, hdigit⟩ := (hexDigits_hexadecimal c.toNat).exists_digit hdigit
      exact not_isControl_of_hexDigit? hdigit
    · decide
  | plain _ _ hvisible => rwa [List.mem_singleton.mp hd]

theorem not_isControl_of_mem_quote {text : String} {d : Char} (h : d ∈ (quote text).toList) :
    ¬ IsControl d := by
  have hquote : ¬ IsControl '"' := by decide
  rw [toList_quote, body, List.mem_append, List.mem_cons, List.mem_singleton] at h
  rcases h with (rfl | hbody) | rfl
  · exact hquote
  · obtain ⟨c, -, hd⟩ := List.mem_flatMap.mp hbody
    exact (escapes_escape c).not_isControl hd
  · exact hquote

/-! ## Reading back -/

/-- What the characters read so far have begun. -/
inductive Mark where
  | plain
  /-- A backslash. -/
  | escape
  /-- A backslash and the letter of a code point. -/
  | brace
  /-- The digits of a code point. -/
  | code (value : Nat)

/-- The text that is written up to the closing quote, if it is written properly. -/
def unquote : Mark → List Char → Option (List Char)
  | _, [] => none
  | .plain, c :: rest =>
    if c = '"' then some []
    else if c = '\\' then unquote .escape rest
    else (unquote .plain rest).map (c :: ·)
  | .escape, c :: rest =>
    if c = 'u' then unquote .brace rest
    else (named? c).bind fun d => (unquote .plain rest).map (d :: ·)
  | .brace, c :: rest => if c = '\x7b' then unquote (.code 0) rest else none
  | .code value, c :: rest =>
    if c = '\x7d' then (unquote .plain rest).map (Char.ofNat value :: ·)
    else (hexDigit? c).bind fun digit => unquote (.code (16 * value + digit)) rest

theorem HexDigits.unquote_append {cs : List Char} {value : Nat} (h : HexDigits cs value)
    (rest : List Char) : unquote (.code 0) (cs ++ rest) = unquote (.code value) rest := by
  induction h generalizing rest with
  | nil => rfl
  | concat _ hdigit ih =>
    rw [List.append_assoc, ih, List.singleton_append, unquote, if_neg, hdigit, Option.bind_some]
    rintro rfl
    cases hdigit

/-- Every way to write a character is read as this character. -/
theorem Escapes.unquote_append {c : Char} {cs : List Char} (h : Escapes c cs)
    (rest : List Char) : unquote .plain (cs ++ rest) = (unquote .plain rest).map (c :: ·) := by
  cases h with
  | named hletter _ hnamed =>
    rw [List.cons_append, List.singleton_append, unquote, if_neg (by decide), if_pos rfl, unquote,
      if_neg hletter, hnamed, Option.bind_some]
  | codePoint =>
    have hdigits := (hexDigits_hexadecimal c.toNat).unquote_append ('\x7d' :: rest)
    rw [unquote, if_pos rfl, Char.ofNat_toNat] at hdigits
    rw [Quoted.codePoint, List.append_assoc, List.append_assoc]
    exact hdigits
  | plain hquote hslash _ =>
    rw [List.singleton_append, unquote, if_neg hquote, if_neg hslash]

theorem unquote_body (text : String) (rest : List Char) :
    unquote .plain (body text ++ '"' :: rest) = some text.toList := by
  rw [body]
  induction text.toList with
  | nil => rfl
  | cons c cs ih =>
    rw [List.flatMap_cons, List.append_assoc, (escapes_escape c).unquote_append, ih,
      Option.map_some]

/-- The text of the first quotation in a text. -/
def firstQuotation? (text : String) : Option String :=
  (unquote .plain (text.toList.dropWhile (· ≠ '"')).tail).map String.ofList

theorem firstQuotation?_of_toList {text quoted : String} {before after : List Char}
    (hbefore : '"' ∉ before) (h : text.toList = before ++ (quote quoted).toList ++ after) :
    firstQuotation? text = some quoted := by
  have hskip : ∀ c ∈ before, decide (c ≠ '"') = true := by
    intro c hc
    exact decide_eq_true fun heq => hbefore (heq ▸ hc)
  rw [firstQuotation?, h, toList_quote, List.append_assoc, List.dropWhile_append_of_pos hskip,
    List.cons_append, List.cons_append, List.dropWhile_cons_of_neg (by decide), List.tail_cons,
    List.append_assoc, List.singleton_append, unquote_body, Option.map_some,
    String.ofList_toList]

end FactorialCheck.Quoted
