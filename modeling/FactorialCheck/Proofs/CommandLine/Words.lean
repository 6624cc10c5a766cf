import FactorialCheck.Proofs.CommandLine.Grammar

/-!
# Words and their shapes

A word is made up of its shape again, so that a word of a known shape is known.
-/

namespace FactorialCheck.CommandLine

namespace Word

theorem ofText_ofList (cs : List Char) : ofText (String.ofList cs) = ofChars cs := by
  rw [ofText, String.toList_ofList]

theorem ofChars_of_head_ne {c : Char} (rest : List Char) (h : c ≠ '-') :
    ofChars (c :: rest) = .plain := by
  unfold ofChars
  split
  · rename_i heq
    exact absurd (List.cons.inj heq).1 h
  · rename_i heq
    exact absurd (List.cons.inj heq).1 h
  · rename_i heq
    exact absurd (List.cons.inj heq).1 h
  · rfl

theorem ofChars_dash {c : Char} (rest : List Char) (h : c ≠ '-') :
    ofChars ('-' :: c :: rest) = .cluster (c :: rest) := by
  unfold ofChars
  split
  · rename_i heq
    exact absurd (List.cons.inj (List.cons.inj heq).2).1 h
  · rename_i heq
    exact absurd (List.cons.inj (List.cons.inj heq).2).1 h
  · rename_i heq
    rw [(List.cons.inj heq).2]
  · rename_i hnone
    exact absurd rfl (hnone c rest)

theorem ofChars_eq_terminator {cs : List Char} (h : ofChars cs = .terminator) :
    cs = ['-', '-'] := by
  unfold ofChars at h
  split at h
  · rfl
  · cases h
  · cases h
  · cases h

theorem ofChars_eq_long {cs : List Char} {name : String} {value : Option String}
    (h : ofChars cs = .long name value) :
    ∃ rest, cs = '-' :: '-' :: rest ∧ ofLong rest = .long name value := by
  unfold ofChars at h
  split at h
  · cases h
  · exact ⟨_, rfl, h⟩
  · cases h
  · cases h

theorem ofChars_eq_cluster {cs letters : List Char} (h : ofChars cs = .cluster letters) :
    cs = '-' :: letters ∧ letters ≠ [] := by
  unfold ofChars at h
  split at h
  · cases h
  · cases h
  · cases h
    exact ⟨rfl, List.cons_ne_nil _ _⟩
  · cases h

theorem chars_of_ofLong_none {cs : List Char} {name : String}
    (h : ofLong cs = .long name none) : cs = name.toList := by
  have hsplit := List.takeWhile_append_dropWhile (p := (· ≠ '=')) (l := cs)
  rw [ofLong] at h
  cases hrest : cs.dropWhile (· ≠ '=') with
  | nil =>
    rw [hrest] at h hsplit
    cases h
    rw [String.toList_ofList]
    exact (hsplit.symm.trans (List.append_nil _))
  | cons c rest =>
    rw [hrest] at h
    cases h

/-- The value of a flag stands behind the first equals sign. -/
theorem chars_of_ofLong_some {cs : List Char} {name text : String}
    (h : ofLong cs = .long name (some text)) : cs = name.toList ++ '=' :: text.toList := by
  have hsplit := List.takeWhile_append_dropWhile (p := (· ≠ '=')) (l := cs)
  have hhead := List.head?_dropWhile_not (· ≠ '=') cs
  rw [ofLong] at h
  cases hrest : cs.dropWhile (· ≠ '=') with
  | nil =>
    rw [hrest] at h
    cases h
  | cons c rest =>
    rw [hrest] at h hsplit hhead
    cases h
    have hequals : c = '=' := by simpa using hhead
    rw [hequals] at hsplit
    rw [String.toList_ofList, String.toList_ofList]
    exact hsplit.symm

theorem eq_terminator_of_ofText {word : String} (h : ofText word = .terminator) :
    word = "--" :=
  String.toList_inj.mp (ofChars_eq_terminator h)

theorem eq_name_of_ofText {word name : String} (h : ofText word = .long name none) :
    word = "--" ++ name := by
  obtain ⟨rest, hchars, hlong⟩ := ofChars_eq_long h
  rw [← String.toList_inj, hchars, chars_of_ofLong_none hlong]
  simp

theorem eq_joined_of_ofText {word name text : String} (h : ofText word = .long name (some text)) :
    word = "--" ++ name ++ "=" ++ text := by
  obtain ⟨rest, hchars, hlong⟩ := ofChars_eq_long h
  rw [← String.toList_inj, hchars, chars_of_ofLong_some hlong]
  simp

theorem eq_cluster_of_ofText {word : String} {letters : List Char}
    (h : ofText word = .cluster letters) :
    word = String.ofList ('-' :: letters) ∧ letters ≠ [] := by
  obtain ⟨hchars, hne⟩ := ofChars_eq_cluster h
  refine ⟨?_, hne⟩
  rw [← String.toList_inj, hchars, String.toList_ofList]

theorem ofText_joinedInput (text : String) :
    ofText ("--input=" ++ text) = .long "input" (some text) := by
  have hchars : ("--input=" ++ text).toList =
      '-' :: '-' :: 'i' :: 'n' :: 'p' :: 'u' :: 't' :: '=' :: text.toList :=
    String.toList_append ..
  rw [ofText, hchars, ofChars, ofLong]
  · simp
  · simp

theorem ofText_verboseCluster (more : Nat) :
    ofText (String.ofList ('-' :: List.replicate (more + 1) 'v')) =
      .cluster (List.replicate (more + 1) 'v') := by
  rw [ofText_ofList, List.replicate_succ]
  rfl

end Word

end FactorialCheck.CommandLine
