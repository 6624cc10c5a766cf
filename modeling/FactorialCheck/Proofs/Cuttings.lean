import FactorialCheck.Log.Directive
import FactorialCheck.Proofs.Results

/-!
# Cuts of directives

Where no blanks stand before a directive its marks stand where they are found, between
characters. Every piece can be taken then, and the reading does not abort.
-/

namespace FactorialCheck.Log

namespace Cutting

/-- A place behind a part of the text, which goes on as it is marked and has blanks at its end. -/
structure Behind (cutting : Cutting) (before blanks : List Char) : Prop where
  text_eq : cutting.text = before ++ (cutting.marked ++ blanks)
  offset_eq : cutting.offset = byteCount before

namespace Behind

variable {cutting : Cutting} {before blanks : List Char} (h : cutting.Behind before blanks)
include h

theorem skip {c : Char} {more : List Char} (hmarked : cutting.marked = c :: more)
    (hbyte : c.utf8Size = 1) : cutting.skip.Behind (before ++ [c]) blanks where
  text_eq := by
    rw [Cutting.skip, h.text_eq, hmarked, List.append_assoc before]
    rfl
  offset_eq := by
    have hbytes : byteCount [c] = 1 := hbyte
    rw [Cutting.skip, h.offset_eq, byteCount_append, hbytes]

theorem rest_eq : cutting.rest = .ok (String.ofList (cutting.marked ++ blanks)) := by
  simp only [rest, h.text_eq, h.offset_eq, cutAt?_byteCount]

variable (isMark : Char → Bool)

/-- Up to a mark nothing is lost. -/
theorem text_eq_of_mark :
    cutting.text = before ++ (cutting.marked.takeWhile fun c => !isMark c) ++
      ((cutting.marked.dropWhile fun c => !isMark c) ++ blanks) := by
  rw [List.append_assoc before, ← List.append_assoc (List.takeWhile _ _),
    List.takeWhile_append_dropWhile, h.text_eq]

theorem upTo :
    (cutting.upTo isMark).Behind (before ++ cutting.marked.takeWhile fun c => !isMark c) blanks where
  text_eq := h.text_eq_of_mark isMark
  offset_eq := by rw [Cutting.upTo, h.offset_eq, byteCount_append]

/-- The piece up to a mark is what stands before it. -/
theorem pieceTo_upTo :
    cutting.pieceTo (cutting.upTo isMark) =
      .ok (String.ofList (cutting.marked.takeWhile fun c => !isMark c)) := by
  rw [pieceTo, (h.upTo isMark).offset_eq, h.offset_eq, byteCount_append,
    h.text_eq_of_mark isMark, slice?_byteCount]

end Behind

/-- A text that begins with another character than a blank is cut where it is marked. -/
theorem exists_behind_start {c : Char} (h : CharacterClass.whiteSpace.holds c = false)
    (rest : List Char) :
    ∃ more blanks, rest = more ++ blanks ∧
      (∀ b ∈ blanks, CharacterClass.whiteSpace.holds b = true) ∧
      (start (c :: rest)).marked = c :: more ∧ (start (c :: rest)).Behind [] blanks := by
  obtain ⟨more, blanks, htrim, rfl, hblanks⟩ := exists_trim_cons h rest
  have hmarked : (start (c :: (more ++ blanks))).marked = c :: more := htrim
  refine ⟨more, blanks, rfl, hblanks, hmarked, ?_, rfl⟩
  rw [hmarked]
  rfl

end Cutting

namespace Directive

theorem readThreshold_ne_aborted (text : String) : readThreshold text ≠ .error .aborted := by
  rw [readThreshold]
  by_cases hempty : text = ""
  · rw [if_pos hempty]
    rintro ⟨⟩
  · rw [if_neg hempty]
    cases Threshold.ofText? text <;> rintro ⟨⟩

theorem readCondition_ne_aborted (text : String) : readCondition text ≠ .error .aborted := by
  rw [readCondition]
  by_cases hempty : text = ""
  · rw [if_pos hempty]
    rintro ⟨⟩
  · rw [if_neg hempty]
    cases FieldCondition.ofText text <;> rintro ⟨⟩

section Behind

variable {cutting : Cutting} {before blanks : List Char} (h : cutting.Behind before blanks)
include h

theorem readEnd_ne_aborted (target : String) (span : Option String) (field : Option FieldCondition) :
    readEnd target span field cutting ≠ .error .aborted := by
  unfold readEnd
  split
  · rintro ⟨⟩
  · rename_i more hmarked
    rw [(h.skip hmarked (by decide)).rest_eq, ok_bind_eq]
    exact fun herror => readThreshold_ne_aborted _ (map_eq_error_iff.mp herror)
  · rintro ⟨⟩

theorem readField_ne_aborted (target : String) (span : Option String) :
    readField target span cutting ≠ .error .aborted := by
  have hmark := h.upTo (· == '}')
  unfold readField
  simp only [h.pieceTo_upTo, ok_bind_eq]
  split
  · rename_i more hmarked
    intro herror
    rcases bind_eq_error_iff.mp herror with hcondition | ⟨condition, -, hend⟩
    · exact readCondition_ne_aborted _ hcondition
    · split at hend
      · have hskip := hmark.skip hmarked (by decide)
        have hbracket : (cutting.upTo (· == '}')).skip.marked = _ := congrArg List.tail hmarked
        exact readEnd_ne_aborted (hskip.skip hbracket (by decide)) target span _ hend
      · cases hend
  · rintro ⟨⟩

theorem readSpan_ne_aborted (target : String) : readSpan target cutting ≠ .error .aborted := by
  have hmark := h.upTo fun c => c == ']' || c == '{'
  unfold readSpan
  simp only [h.pieceTo_upTo, ok_bind_eq]
  split
  · exact readEnd_ne_aborted (hmark.skip ‹_› (by decide)) target _ _
  · exact readField_ne_aborted (hmark.skip ‹_› (by decide)) target _
  · rintro ⟨⟩

theorem readTarget_ne_aborted : readTarget cutting ≠ .error .aborted := by
  have hmark := h.upTo fun c => c == '=' || c == '['
  unfold readTarget
  simp only [h.pieceTo_upTo, h.rest_eq, ok_bind_eq]
  split
  · rename_i more hmarked
    rw [(hmark.skip hmarked (by decide)).rest_eq, ok_bind_eq]
    exact fun herror => readThreshold_ne_aborted _ (map_eq_error_iff.mp herror)
  · exact readSpan_ne_aborted (hmark.skip ‹_› (by decide)) _
  · rintro ⟨⟩

end Behind

/-- Only blanks before a directive can abort its reading. -/
theorem ofText_ne_aborted {cs : List Char}
    (h : ∀ c ∈ cs.head?, CharacterClass.whiteSpace.holds c = false) :
    ofText cs ≠ .error .aborted := by
  cases cs with
  | nil => rintro ⟨⟩
  | cons c rest =>
    obtain ⟨more, blanks, -, -, -, hstart⟩ := Cutting.exists_behind_start (h c rfl) rest
    unfold ofText
    dsimp only
    split
    · rintro ⟨⟩
    · exact readSpan_ne_aborted (hstart.skip ‹_› (by decide)) _
    · split
      · exact readTarget_ne_aborted hstart
      · rintro ⟨⟩

end Directive

end FactorialCheck.Log
