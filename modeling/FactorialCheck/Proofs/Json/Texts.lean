import FactorialCheck.Proofs.Json.Scalars

/-!
# Values and their texts

The compact text of a value without reals is read as that value again, if no
object in it has a key twice. So the text tells such values apart.
-/

namespace FactorialCheck.Json

/-- A value without reals, in which every object has each of its keys once. -/
inductive Exact : Json → Prop where
  | null : Exact .null
  | bool (value : Bool) : Exact (.bool value)
  | integer (value : Int) : Exact (.integer value)
  | string (text : String) : Exact (.string text)
  | array {items : List Json} : (∀ item ∈ items, Exact item) → Exact (.array items)
  | object {entries : List (String × Json)} : (entries.map Prod.fst).Nodup →
      (∀ entry ∈ entries, Exact entry.2) → Exact (.object entries)

/-! ## The beginning of a text -/

theorem skipBlanks_cons {c : Char} (more : List Char) (h : isBlank c = false) :
    skipBlanks (c :: more) = c :: more :=
  List.dropWhile_cons_of_neg (Bool.eq_false_iff.mp h)

/-- An integer begins with a minus sign or with a digit. -/
def StartsNumber (c : Char) : Prop :=
  c = '-' ∨ c.isDigit = true

section Number

variable {c : Char} (h : StartsNumber c)
include h

theorem StartsNumber.ne {d : Char} (hminus : d ≠ '-') (hdigit : d.isDigit = false) : c ≠ d := by
  rintro rfl
  rcases h with rfl | hc
  · exact hminus rfl
  · rw [hdigit] at hc
    cases hc

theorem StartsNumber.not_blank : isBlank c = false := by
  rw [isBlank, beq_false_of_ne (h.ne (by decide) (by decide)),
    beq_false_of_ne (h.ne (by decide) (by decide)), beq_false_of_ne (h.ne (by decide) (by decide)),
    beq_false_of_ne (h.ne (by decide) (by decide))]
  rfl

theorem StartsNumber.value?_eq (depth : Nat) (more : List Char) :
    value? (depth + 1) (c :: more) = number? (c :: more) := by
  rw [value?, skipBlanks_cons more h.not_blank]
  -- Every other kind of value begins with a character of its own.
  split
  case h_7 => rfl
  all_goals
    rename_i heq
    exact absurd (List.cons.inj heq).1 (h.ne (by decide) (by decide))

end Number

theorem head_repr (n : Int) : ∃ c more, n.repr.toList = c :: more ∧ StartsNumber c := by
  cases n with
  | ofNat m =>
    have hm := Numeral.digits_toDigits m
    rw [Numeral.toList_repr_ofNat]
    cases hchars : Nat.toDigits 10 m with
    | nil => exact absurd hchars hm.ne_nil
    | cons c more =>
      rw [hchars] at hm
      exact ⟨c, more, rfl, .inr hm.head_isDigit⟩
  | negSucc m => exact ⟨'-', _, Numeral.toList_repr_negSucc m, .inl rfl⟩

/-- The value of a text is read off it with as much depth as it has characters. -/
structure Reads (value : Json) : Prop where
  head : ∃ c more, chars value = c :: more ∧ isBlank c = false ∧ c ≠ ']'
  value?_eq : ∀ (depth : Nat) (rest : List Char), (chars value).length ≤ depth → Ends rest →
    value? depth (chars value ++ rest) = some (value, rest)

theorem Reads.length_pos {value : Json} (h : Reads value) : 0 < (chars value).length := by
  obtain ⟨c, more, hchars, -⟩ := h.head
  rw [hchars]
  exact Nat.succ_pos _

/-- A scalar needs a depth of one. -/
theorem Reads.of_scalar {value : Json} {c : Char} {more : List Char}
    (hchars : chars value = c :: more) (hblank : isBlank c = false) (hbracket : c ≠ ']')
    (h : ∀ (depth : Nat) (rest : List Char), Ends rest →
      value? (depth + 1) (c :: more ++ rest) = some (value, rest)) : Reads value where
  head := ⟨c, more, hchars, hblank, hbracket⟩
  value?_eq := by
    intro depth rest hdepth hrest
    rw [hchars] at hdepth ⊢
    obtain ⟨depth, rfl⟩ : ∃ less, depth = less + 1 :=
      Nat.exists_eq_succ_of_ne_zero (by rintro rfl; cases hdepth)
    exact h depth rest hrest

theorem reads_null : Reads .null :=
  .of_scalar rfl rfl (by decide) fun _ _ _ => rfl

theorem reads_bool (value : Bool) : Reads (.bool value) := by
  cases value with
  | false => exact .of_scalar rfl rfl (by decide) fun _ _ _ => rfl
  | true => exact .of_scalar rfl rfl (by decide) fun _ _ _ => rfl

theorem reads_integer (n : Int) : Reads (.integer n) := by
  obtain ⟨c, more, hrepr, hnumber⟩ := head_repr n
  refine .of_scalar hrepr hnumber.not_blank (hnumber.ne (by decide) (by decide)) ?_
  intro depth rest hrest
  rw [List.cons_append, hnumber.value?_eq, ← List.cons_append, ← hrepr]
  exact number?_repr n hrest

theorem quote_append (text : String) (rest : List Char) :
    quote text ++ rest = '"' :: (text.toList.flatMap escape ++ '"' :: rest) := by
  simp [quote]

theorem reads_string (text : String) : Reads (.string text) := by
  refine .of_scalar rfl rfl (by decide) fun depth rest _ => ?_
  have hbody := stringBody?_flatMap_escape text.toList rest
  change value? (depth + 1) (quote text ++ rest) = _
  rw [quote_append, value?, skipBlanks_cons _ rfl]
  simp only [hbody, Option.map_some, String.ofList_toList]

/-! ## Arrays and objects -/

/-- The brackets and the comma end any number before them. -/
theorem ends_cons {c : Char} (rest : List Char) (h : c ∈ [',', ']', '}']) : Ends (c :: rest) := by
  intro d hd
  cases hd
  simp only [List.mem_cons, List.not_mem_nil, or_false] at h
  rcases h with rfl | rfl | rfl <;> decide

theorem value?_array {c : Char} (depth : Nat) (more : List Char) (hblank : isBlank c = false)
    (hbracket : c ≠ ']') :
    value? (depth + 1) ('[' :: c :: more) = items? depth [] (c :: more) := by
  rw [value?, skipBlanks_cons _ rfl]
  simp only [skipBlanks_cons more hblank]
  split
  · rename_i heq
    exact absurd (List.cons.inj heq).1 hbracket
  · rfl

theorem value?_object (depth : Nat) (more : List Char) :
    value? (depth + 1) ('{' :: '"' :: more) = entries? depth [] ('"' :: more) := by
  rw [value?, skipBlanks_cons _ rfl]
  simp only [skipBlanks_cons more (c := '"') rfl]
  rfl

theorem itemChars_cons {item : Json} {more : List Json} (hmore : more ≠ []) :
    itemChars (item :: more) = chars item ++ ',' :: itemChars more := by
  cases more with
  | nil => exact absurd rfl hmore
  | cons next more => rfl

theorem items?_itemChars {items : List Json} (hne : items ≠ [])
    (h : ∀ item ∈ items, Reads item) (read : List Json) (depth : Nat) (rest : List Char)
    (hdepth : (itemChars items).length < depth) :
    items? depth read (itemChars items ++ ']' :: rest) = some (.array (read ++ items), rest) := by
  induction items generalizing read depth with
  | nil => exact absurd rfl hne
  | cons item more ih =>
    obtain ⟨hitem, hmore⟩ := List.forall_mem_cons.mp h
    obtain ⟨depth, rfl⟩ : ∃ less, depth = less + 1 :=
      Nat.exists_eq_succ_of_ne_zero (by rintro rfl; cases hdepth)
    by_cases hlast : more = []
    · subst hlast
      have hread := hitem.value?_eq depth (']' :: rest) (Nat.le_of_lt_succ hdepth)
        (ends_cons rest (by decide))
      rw [itemChars, items?, hread]
      rfl
    · rw [itemChars_cons hlast] at hdepth ⊢
      simp only [List.length_append, List.length_cons] at hdepth
      have hread := hitem.value?_eq depth (',' :: (itemChars more ++ ']' :: rest)) (by omega)
        (ends_cons _ (by decide))
      have hpos := hitem.length_pos
      rw [List.append_assoc, List.cons_append, items?, hread]
      refine (ih hlast hmore (read ++ [item]) depth (by omega)).trans ?_
      rw [List.append_assoc]
      rfl

theorem reads_array {items : List Json} (h : ∀ item ∈ items, Reads item) :
    Reads (.array items) := by
  refine ⟨⟨'[', _, rfl, rfl, by decide⟩, ?_⟩
  intro depth rest hdepth _
  simp only [chars, List.length_append, List.length_cons, List.length_nil] at hdepth
  obtain ⟨depth, rfl⟩ : ∃ less, depth = less + 1 :=
    Nat.exists_eq_succ_of_ne_zero (by omega)
  rw [chars, List.append_assoc, List.cons_append, List.singleton_append]
  cases items with
  | nil => rfl
  | cons item more =>
    -- The first item begins with neither a blank nor the closing bracket.
    obtain ⟨c, tail, hchars, hblank, hbracket⟩ := (h item (List.mem_cons_self ..)).head
    have hitems := items?_itemChars (List.cons_ne_nil item more) h [] depth rest (by omega)
    obtain ⟨tail, htail⟩ : ∃ tail, itemChars (item :: more) ++ ']' :: rest = c :: tail := by
      cases more with
      | nil => exact ⟨_, by rw [itemChars, hchars, List.cons_append]⟩
      | cons next more =>
        rw [itemChars_cons (List.cons_ne_nil next more), hchars]
        exact ⟨_, rfl⟩
    rw [htail] at hitems ⊢
    rw [value?_array depth tail hblank hbracket]
    exact hitems

theorem put_of_not_mem {entries : List (String × Json)} {key : String} (value : Json)
    (h : key ∉ entries.map Prod.fst) : put entries key value = entries ++ [(key, value)] := by
  apply if_neg
  rw [List.any_eq_true]
  rintro ⟨entry, hentry, hkey⟩
  exact h (List.mem_map.mpr ⟨entry, hentry, beq_iff_eq.mp hkey⟩)

theorem entryChars_cons {entry : String × Json} {more : List (String × Json)}
    (hmore : more ≠ []) :
    entryChars (entry :: more) =
      quote entry.1 ++ ':' :: (chars entry.2 ++ ',' :: entryChars more) := by
  obtain ⟨key, value⟩ := entry
  cases more with
  | nil => exact absurd rfl hmore
  | cons next more =>
    rw [entryChars]
    · simp
    · exact nofun

section Entry

variable (key : String) {value : Json} (hvalue : Reads value) (read : List (String × Json))
  (depth : Nat) (hdepth : (chars value).length ≤ depth) (rest : List Char)
include hvalue hdepth

/-- Behind a key and its value a comma leads on to the next entry, -/
theorem entries?_quote_comma :
    entries? (depth + 1) read (quote key ++ ':' :: (chars value ++ ',' :: rest)) =
      entries? depth (put read key value) rest := by
  have hbody := stringBody?_flatMap_escape key.toList (':' :: (chars value ++ ',' :: rest))
  have hread := hvalue.value?_eq depth (',' :: rest) hdepth (ends_cons rest (by decide))
  rw [quote_append, entries?, skipBlanks_cons _ rfl]
  simp only [hbody, skipBlanks_cons _ (c := ':') rfl, hread, skipBlanks_cons _ (c := ',') rfl,
    String.ofList_toList]

/-- and a brace ends the object. -/
theorem entries?_quote_brace :
    entries? (depth + 1) read (quote key ++ ':' :: (chars value ++ '}' :: rest)) =
      some (.object (put read key value), rest) := by
  have hbody := stringBody?_flatMap_escape key.toList (':' :: (chars value ++ '}' :: rest))
  have hread := hvalue.value?_eq depth ('}' :: rest) hdepth (ends_cons rest (by decide))
  rw [quote_append, entries?, skipBlanks_cons _ rfl]
  simp only [hbody, skipBlanks_cons _ (c := ':') rfl, hread, skipBlanks_cons _ (c := '}') rfl,
    String.ofList_toList]

end Entry

theorem entries?_entryChars {entries : List (String × Json)} (hne : entries ≠ [])
    (h : ∀ entry ∈ entries, Reads entry.2) (read : List (String × Json)) (depth : Nat)
    (rest : List Char) (hkeys : ((read ++ entries).map Prod.fst).Nodup)
    (hdepth : (entryChars entries).length < depth) :
    entries? depth read (entryChars entries ++ '}' :: rest) =
      some (.object (read ++ entries), rest) := by
  induction entries generalizing read depth with
  | nil => exact absurd rfl hne
  | cons entry more ih =>
    obtain ⟨key, value⟩ := entry
    obtain ⟨hvalue, hmore⟩ : Reads value ∧ ∀ entry ∈ more, Reads entry.2 :=
      List.forall_mem_cons.mp h
    obtain ⟨depth, rfl⟩ : ∃ less, depth = less + 1 :=
      Nat.exists_eq_succ_of_ne_zero (by rintro rfl; cases hdepth)
    have hnew : key ∉ read.map Prod.fst := by
      intro hmem
      rw [List.map_append, List.nodup_append] at hkeys
      exact hkeys.2.2 key hmem key (List.mem_cons_self ..) rfl
    by_cases hlast : more = []
    · subst hlast
      simp only [entryChars, List.length_append, List.length_cons] at hdepth
      have hentry := entries?_quote_brace key hvalue read depth (by omega) rest
      rw [put_of_not_mem value hnew] at hentry
      rw [entryChars, List.append_assoc, List.cons_append]
      exact hentry
    · rw [entryChars_cons hlast] at hdepth ⊢
      simp only [List.length_append, List.length_cons] at hdepth
      have hentry := entries?_quote_comma key hvalue read depth (by omega)
        (entryChars more ++ '}' :: rest)
      have hpos := hvalue.length_pos
      rw [put_of_not_mem value hnew] at hentry
      rw [List.append_assoc, List.cons_append, List.append_assoc, List.cons_append]
      refine hentry.trans ((ih hlast hmore (read ++ [(key, value)]) depth ?_ (by omega)).trans ?_)
      · rwa [List.append_assoc]
      · rw [List.append_assoc]
        rfl

theorem reads_object {entries : List (String × Json)} (hkeys : (entries.map Prod.fst).Nodup)
    (h : ∀ entry ∈ entries, Reads entry.2) : Reads (.object entries) := by
  refine ⟨⟨'{', _, rfl, rfl, by decide⟩, ?_⟩
  intro depth rest hdepth _
  simp only [chars, List.length_append, List.length_cons, List.length_nil] at hdepth
  obtain ⟨depth, rfl⟩ : ∃ less, depth = less + 1 :=
    Nat.exists_eq_succ_of_ne_zero (by omega)
  rw [chars, List.append_assoc, List.cons_append, List.singleton_append]
  cases entries with
  | nil => rfl
  | cons entry more =>
    have hentries := entries?_entryChars (List.cons_ne_nil entry more) h [] depth rest hkeys
      (by omega)
    obtain ⟨tail, htail⟩ : ∃ tail, entryChars (entry :: more) ++ '}' :: rest = '"' :: tail := by
      cases more with
      | nil => exact ⟨_, rfl⟩
      | cons next more =>
        rw [entryChars_cons (List.cons_ne_nil next more)]
        exact ⟨_, rfl⟩
    rw [htail] at hentries ⊢
    rw [value?_object depth tail]
    exact hentries

/-! ## Whole texts -/

theorem Exact.reads {value : Json} (h : Exact value) : Reads value := by
  induction h with
  | null => exact reads_null
  | bool value => exact reads_bool value
  | integer value => exact reads_integer value
  | string text => exact reads_string text
  | array _ ih => exact reads_array ih
  | object hkeys _ ih => exact reads_object hkeys ih

/-- The compact text of a value is read as this value. -/
theorem Exact.parse?_compact {value : Json} (h : Exact value) :
    parse? value.compact = some value := by
  have hread := h.reads.value?_eq (2 * (chars value).length + 1) [] (by omega) ends_nil
  rw [List.append_nil] at hread
  simp only [parse?, compact, String.toList_ofList, hread]
  rfl

theorem Exact.eq_of_compact_eq {first second : Json} (hfirst : Exact first)
    (hsecond : Exact second) (h : first.compact = second.compact) : first = second := by
  have hread := hfirst.parse?_compact
  rw [h, hsecond.parse?_compact] at hread
  exact (Option.some.inj hread).symm

end FactorialCheck.Json
