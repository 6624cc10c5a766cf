import FactorialCheck.Proofs.Cuttings
import FactorialCheck.Proofs.Thresholds
import Mathlib.Data.List.TakeWhile

/-!
# Directives as they are written

What is read from a threshold, from a target and from both with an equals sign between
them.
-/

namespace FactorialCheck

/-! ## Classes of characters -/

namespace CharacterClass

/-- No run of one class has a code point in common with one of the other. -/
def Disjoint (a b : CharacterClass) : Prop :=
  ∀ r ∈ a.ranges, ∀ s ∈ b.ranges, r.2 < s.1 ∨ s.2 < r.1

instance (a b : CharacterClass) : Decidable (Disjoint a b) :=
  inferInstanceAs (Decidable (∀ r ∈ a.ranges, ∀ s ∈ b.ranges, _))

theorem Disjoint.holds_eq_false {a b : CharacterClass} (h : Disjoint a b) {c : Char}
    (hc : a.holds c = true) : b.holds c = false := by
  obtain ⟨r, hr, hin⟩ := List.any_eq_true.mp hc
  rw [holds, List.any_eq_false]
  intro s hs
  have hapart := h r hr s hs
  simp only [Bool.and_eq_true, decide_eq_true_eq] at hin ⊢
  omega

theorem alphabetic_disjoint_whiteSpace : Disjoint alphabetic whiteSpace := by
  decide +kernel

theorem numeric_disjoint_whiteSpace : Disjoint numeric whiteSpace := by
  decide +kernel

end CharacterClass

namespace Log

/-! ## Targets -/

namespace Directive

/-- What sets the directives of a text, and the parts of a directive, off. -/
def delimiters : List Char :=
  [' ', ',', '=', '[', ']', '{', '}']

/-- A text in which nothing is set off. -/
def Plain (text : String) : Prop :=
  ∀ c ∈ text.toList, c ∉ delimiters

instance (text : String) : Decidable (Plain text) :=
  List.decidableBAll _ text.toList

/-- A text that begins as a target can, and in which nothing is set off. -/
structure Target (text : String) : Prop where
  opens : text.toList.head?.any opensTarget = true
  plain : Plain text

instance (text : String) : Decidable (Target text) :=
  decidable_of_iff (text.toList.head?.any opensTarget = true ∧ Plain text)
    ⟨fun h => ⟨h.1, h.2⟩, fun h => ⟨h.opens, h.plain⟩⟩

theorem whiteSpace_of_opensTarget {c : Char} (h : opensTarget c = true) :
    CharacterClass.whiteSpace.holds c = false := by
  simp only [opensTarget, isLetterOrNumber, Bool.or_eq_true, beq_iff_eq] at h
  rcases h with ((rfl | rfl) | rfl) | hletter | hnumber
  · decide
  · decide
  · decide
  · exact CharacterClass.alphabetic_disjoint_whiteSpace.holds_eq_false hletter
  · exact CharacterClass.numeric_disjoint_whiteSpace.holds_eq_false hnumber

/-- A text that begins as a target is read as one, but for the blanks at its end. -/
theorem ofText_of_opens {cs : List Char} (h : cs.head?.any opensTarget = true) :
    ∃ cutting blanks, cutting.Behind [] blanks ∧ cs = cutting.marked ++ blanks ∧
      (∀ c ∈ blanks, CharacterClass.whiteSpace.holds c = true) ∧
      ofText cs = readTarget cutting := by
  cases cs with
  | nil => cases h
  | cons c rest =>
    have hc : opensTarget c = true := h
    obtain ⟨more, blanks, rfl, hblanks, hmarked, hbehind⟩ :=
      Cutting.exists_behind_start (whiteSpace_of_opensTarget hc) rest
    refine ⟨Cutting.start (c :: (more ++ blanks)), blanks, hbehind, hbehind.text_eq, hblanks, ?_⟩
    have hbracket : c ≠ '[' := by
      rintro rfl
      exact absurd hc (by decide +kernel)
    simp only [ofText, hmarked, hc, if_true]

theorem Target.opens_append {text : String} (h : Target text) (rest : List Char) :
    (text.toList ++ rest).head?.any opensTarget = true := by
  have hopens := h.opens
  cases htext : text.toList with
  | nil =>
    rw [htext] at hopens
    cases hopens
  | cons c more =>
    rw [htext] at hopens
    exact hopens

/-- Neither of the two characters that end a target stands in one. -/
theorem Target.not_ends {text : String} (h : Target text) :
    ∀ c ∈ text.toList, (!(c == '=' || c == '[')) = true := by
  intro c hc
  have hplain := h.plain c hc
  simp only [delimiters, List.mem_cons, List.not_mem_nil, or_false, not_or] at hplain
  simp [hplain]

section ReadTarget

variable {cutting : Cutting} {blanks : List Char} (hbehind : cutting.Behind [] blanks)
include hbehind

theorem readTarget_of_not_ends (h : ∀ c ∈ cutting.marked, (!(c == '=' || c == '[')) = true) :
    readTarget cutting = .ok (bare (String.ofList (cutting.marked ++ blanks))) := by
  have hmark : (cutting.upTo fun c => c == '=' || c == '[').marked = [] :=
    List.dropWhile_eq_nil_iff.mpr h
  simp only [readTarget, hmark, hbehind.rest_eq]
  rfl

theorem readTarget_of_equals {cs more : List Char} (hmarked : cutting.marked = cs ++ '=' :: more)
    (h : ∀ c ∈ cs, (!(c == '=' || c == '[')) = true) :
    readTarget cutting =
      (readThreshold (String.ofList (more ++ blanks))).map
        (Directive.mk (String.ofList cs) none none) := by
  have hbefore : cutting.marked.takeWhile (fun c => !(c == '=' || c == '[')) = cs := by
    rw [hmarked, List.takeWhile_append_of_pos h]
    exact List.append_nil cs
  have hmark : (cutting.upTo fun c => c == '=' || c == '[').marked = '=' :: more := by
    rw [Cutting.upTo, hmarked]
    exact List.dropWhile_append_of_pos h
  have hskip := ((hbehind.upTo _).skip hmark (by decide)).rest_eq
  have hmore : (cutting.upTo fun c => c == '=' || c == '[').skip.marked = more :=
    congrArg List.tail hmark
  rw [hmore] at hskip
  simp only [readTarget, hmark, hbehind.pieceTo_upTo, hbefore, hskip, ok_bind_eq]

end ReadTarget

/-- A text in which nothing is set off is a threshold, or else a target. -/
theorem ofText_of_target {text : String} (h : Target text) :
    ofText text.toList = .ok (bare text) := by
  obtain ⟨cutting, blanks, hbehind, htext, -, hread⟩ := ofText_of_opens h.opens
  have hmarked : ∀ c ∈ cutting.marked, (!(c == '=' || c == '[')) = true :=
    fun c hc => h.not_ends c (htext ▸ List.mem_append_left _ hc)
  rw [hread, readTarget_of_not_ends hbehind hmarked, ← htext, String.ofList_toList]

/-- Behind the equals sign after a target there is a threshold, blanks and all. -/
theorem ofText_of_equals {target : String} (h : Target target) (text : String) :
    ofText (target ++ "=" ++ text).toList =
      (readThreshold text).map (Directive.mk target none none) := by
  have hcs : (target ++ "=" ++ text).toList = target.toList ++ '=' :: text.toList := by
    rw [String.toList_append, String.toList_append, List.append_assoc]
    rfl
  have hequals : CharacterClass.whiteSpace.holds '=' = false := by decide
  obtain ⟨cutting, blanks, hbehind, htext, hblanks, hread⟩ :=
    ofText_of_opens (h.opens_append _)
  rw [hcs, hread]
  -- The equals sign is no blank, so it stands before all that is cut off.
  rcases List.append_eq_append_iff.mp htext with
    ⟨between, hmarked, hrest⟩ | ⟨between, htarget, hrest⟩
  · cases between with
    | nil =>
      rw [List.nil_append] at hrest
      rw [hblanks '=' (hrest ▸ List.mem_cons_self)] at hequals
      cases hequals
    | cons c more =>
      rw [List.cons_append] at hrest
      obtain ⟨rfl, hmore⟩ := List.cons.inj hrest
      rw [readTarget_of_equals hbehind hmarked h.not_ends, String.ofList_toList, ← hmore,
        String.ofList_toList]
  · rw [hblanks '=' (hrest ▸ by simp)] at hequals
    cases hequals

/-! ## Thresholds behind a target -/

theorem readThreshold_of_spelled {text : String} {threshold : Threshold}
    (h : threshold.Spelled text) : readThreshold text = .ok threshold := by
  have hread := Threshold.ofText?_eq_some_iff.mpr h
  have hempty : Threshold.ofText? "" = none := by decide
  have hne : text ≠ "" := by
    rintro rfl
    rw [hempty] at hread
    cases hread
  rw [readThreshold, if_neg hne, hread]

/-- A target with an equals sign, behind which there is something other than a threshold. -/
def Misspelled (text : String) : Prop :=
  ∃ target level, text = target ++ "=" ++ level ∧ Target target ∧ level ≠ "" ∧
    ∀ threshold : Threshold, ¬ threshold.Spelled level

theorem ofText_of_misspelled {text : String} (h : Misspelled text) :
    ofText text.toList = .error (.refused .unknownThreshold) := by
  obtain ⟨target, level, rfl, htarget, hne, hnone⟩ := h
  rw [ofText_of_equals htarget, readThreshold, if_neg hne, Threshold.ofText?_eq_none_iff.mpr hnone]
  rfl

end Directive

theorem Directive.not_mem_delimiters_of_isDigit {c : Char} (h : c.isDigit = true) :
    c ∉ delimiters := by
  have hdelimiters : ∀ c ∈ delimiters, (!c.isDigit) = true := List.all_eq_true.mp (by decide)
  intro hmem
  have hnone := hdelimiters c hmem
  rw [h] at hnone
  cases hnone

theorem Threshold.Spelled.plain {text : String} {threshold : Threshold}
    (h : threshold.Spelled text) : Directive.Plain text := by
  cases h with
  | name hname =>
    have hnames : ∀ threshold ∈ all, (Directive.delimiters.all fun c =>
        !threshold.name.toList.contains c.toLower) = true := by decide
    intro c hc hmem
    rw [← Ascii.sameIgnoringCase_iff, Ascii.sameIgnoringCase, beq_iff_eq, lower_name] at hname
    have hlower : c.toLower ∈ threshold.name.toList := by
      rw [hname, Ascii.toList_lower]
      exact List.mem_map_of_mem hc
    have habsent := List.all_eq_true.mp (hnames threshold (mem_all threshold)) c hmem
    rw [List.contains_iff_mem.mpr hlower] at habsent
    cases habsent
  | number hdigits =>
    exact fun c hc => Directive.not_mem_delimiters_of_isDigit (hdigits.isDigit c hc)
  | signed htext hdigits =>
    intro c hc
    rw [htext, List.mem_cons] at hc
    rcases hc with rfl | hc
    · decide
    · exact Directive.not_mem_delimiters_of_isDigit (hdigits.isDigit c hc)

/-! ## Clauses -/

/-- A directive as it is written, with the threshold that it sets. -/
inductive Clause where
  /-- A threshold for all targets. -/
  | level (text : String) (threshold : Threshold)
  /-- A threshold for the targets that begin in one way. -/
  | assignment (target text : String) (threshold : Threshold)
  /-- A beginning of targets of which all is logged. -/
  | full (target : String)
  deriving DecidableEq, Repr

namespace Clause

def text : Clause → String
  | .level text _ => text
  | .assignment target text _ => target ++ "=" ++ text
  | .full target => target

/-- What the targets begin with. -/
def target : Clause → String
  | .level .. => ""
  | .assignment target .. => target
  | .full target => target

def threshold : Clause → Threshold
  | .level _ threshold => threshold
  | .assignment _ _ threshold => threshold
  | .full _ => .upTo .trace

/-- The threshold of a clause is the one that it spells, and a threshold is no target. -/
def WellFormed : Clause → Prop
  | .level text threshold =>
    threshold.Spelled text ∧ text.toList.head?.any Directive.opensTarget = true
  | .assignment target text threshold => Directive.Target target ∧ threshold.Spelled text
  | .full target => Directive.Target target ∧ ∀ threshold : Threshold, ¬ threshold.Spelled target

/-- What a clause says. -/
def directive (clause : Clause) : Directive :=
  ⟨clause.target, none, none, clause.threshold⟩

/-- A clause is read for what it says. -/
theorem WellFormed.ofText_text {clause : Clause} (h : clause.WellFormed) :
    Directive.ofText clause.text.toList = .ok clause.directive := by
  cases clause with
  | level text threshold =>
    obtain ⟨hspelled, hopens⟩ := h
    rw [Clause.text, Directive.ofText_of_target ⟨hopens, hspelled.plain⟩, Directive.bare,
      Threshold.ofText?_eq_some_iff.mpr hspelled]
    rfl
  | assignment target text threshold =>
    obtain ⟨htarget, hspelled⟩ := h
    rw [Clause.text, Directive.ofText_of_equals htarget,
      Directive.readThreshold_of_spelled hspelled]
    rfl
  | full target =>
    obtain ⟨htarget, hnone⟩ := h
    rw [Clause.text, Directive.ofText_of_target htarget, Directive.bare,
      Threshold.ofText?_eq_none_iff.mpr hnone]
    rfl

/-- A clause is one directive. -/
theorem WellFormed.comma_not_mem {clause : Clause} (h : clause.WellFormed) :
    ',' ∉ clause.text.toList := by
  have hcomma : ',' ∈ Directive.delimiters := by decide
  cases clause with
  | level text threshold => exact fun hmem => h.1.plain _ hmem hcomma
  | full target => exact fun hmem => h.1.plain _ hmem hcomma
  | assignment target text threshold =>
    obtain ⟨htarget, hspelled⟩ := h
    rw [Clause.text, String.toList_append, String.toList_append]
    simp only [List.mem_append, not_or]
    exact ⟨⟨fun hmem => htarget.plain _ hmem hcomma, by decide⟩,
      fun hmem => hspelled.plain _ hmem hcomma⟩

end Clause

end Log

end FactorialCheck
