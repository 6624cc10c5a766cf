import FactorialCheck.Announcement
import FactorialCheck.Proofs.Agreement
import FactorialCheck.Proofs.Results
import FactorialCheck.Proofs.Sinks

/-!
# Announcements on one sink

Announcements that follow each other on one sink leave in it what its limit lets
through of all their texts together. An announcement succeeds exactly if all
texts up to its own fit; neither how many bytes a call takes nor which calls are
interrupted makes a difference.
-/

namespace FactorialCheck

/-- What is announced: the verdict on an input, or that there is nothing to check. -/
inductive Announcement where
  | verdict (n : Int64)
  | nothing
  deriving DecidableEq, Repr

namespace Announcement

/-- Makes an announcement; that of a verdict yields its report. -/
def make (sink : Sink) : Announcement → Except Failure (Option Report) × Sink
  | .verdict n =>
    let (announced, sink) := announce n sink
    (announced.result.map some, sink)
  | .nothing =>
    let (written, sink) := announceNothing sink
    (written.map fun _ => none, sink)

/-- The results of announcements made in order. -/
def results : Sink → List Announcement → List (Except Failure (Option Report))
  | _, [] => []
  | sink, a :: rest => (a.make sink).1 :: results (a.make sink).2 rest

/-- The sink after announcements made in order. -/
def sinkAfter (sink : Sink) (announcements : List Announcement) : Sink :=
  announcements.foldl (fun sink a => (a.make sink).2) sink

/-- What an announcement yields and the line it writes, unless its check fails. -/
def content : Announcement → Except Failure (Option Report × String)
  | .verdict n => (check n).result.map fun report => (some report, report.message ++ "\n")
  | .nothing => .ok (none, "Nothing\n")

/-- The bytes that an announcement is to write. -/
def bytes (a : Announcement) : List UInt8 :=
  match a.content with
  | .ok (_, text) => utf8 text
  | .error _ => []

/-- The bytes that announcements are to write, one after the other. -/
def allBytes (announcements : List Announcement) : List UInt8 :=
  announcements.flatMap bytes

/-! ## One line -/

/-- A line is written as its text and its end would be in one go. -/
theorem fills_writeLine {sink : Sink} (hchunk : sink.profile.chunk ≠ some 0) (text : String) :
    ∃ written, (Writing.writeLine text sink).1.result = written.mapError Failure.io ∧
      sink.Fills (utf8 (text ++ "\n")) written (Writing.writeLine text sink).2 := by
  have hline : utf8 (text ++ "\n") = utf8 text ++ utf8 "\n" := by simp [utf8]
  have hfirst := Sink.fills_writeAll (utf8 text) hchunk
  have hwrite : Writer.write sink text =
      ((sink.writeAll (utf8 text)).1.mapError .io, (sink.writeAll (utf8 text)).2) := rfl
  rw [hline]
  cases hresult : (sink.writeAll (utf8 text)).1 with
  | error message =>
    rw [hresult] at hfirst hwrite
    rw [Writing.writeLine_of_error hwrite]
    exact ⟨.error message, rfl, hfirst.append_of_error _⟩
  | ok =>
    rw [hresult] at hfirst hwrite
    have hsecond := Sink.fills_writeAll (utf8 "\n") (hfirst.profile_eq ▸ hchunk)
    rw [Writing.writeLine_of_ok hwrite]
    exact ⟨_, rfl, hfirst.append hsecond⟩

/-! ## One announcement -/

section One

variable {a : Announcement} {sink : Sink} {failure : Failure} {report : Option Report}
  {text : String} {written : List UInt8}

theorem make_of_error (h : a.content = .error failure) : a.make sink = (.error failure, sink) := by
  cases a with
  | verdict n =>
    have hcheck : (check n).result = .error failure := map_eq_error_iff.mp h
    rw [make, announce, writeVerdict, Writing.ofTraced_bind_error hcheck]
    rfl
  | nothing => cases h

/-- An announcement writes its line, and is made if the line is taken. -/
theorem make_of_ok (hchunk : sink.profile.chunk ≠ some 0) (h : a.content = .ok (report, text)) :
    ∃ written, (a.make sink).1 = (written.mapError Failure.io).map (fun _ => report) ∧
      sink.Fills (utf8 text) written (a.make sink).2 := by
  cases a with
  | verdict n =>
    obtain ⟨verdict, hcheck, heq⟩ := map_eq_ok_iff.mp h
    cases heq
    obtain ⟨written, hresult, hfills⟩ := fills_writeLine hchunk verdict.message
    refine ⟨written, ?_, ?_⟩
    · rw [make, announce, writeVerdict, Writing.ofTraced_bind_ok hcheck, Writing.bind_pure_apply,
        hresult]
      cases written <;> rfl
    · rw [make, announce, writeVerdict, Writing.ofTraced_bind_ok hcheck, Writing.bind_pure_apply]
      exact hfills
  | nothing =>
    cases h
    obtain ⟨written, hresult, hfills⟩ := fills_writeLine hchunk "Nothing"
    refine ⟨written, ?_, hfills⟩
    rw [← hresult]
    rfl

/-- A line has its newline at least. -/
theorem utf8_ne_nil (h : a.content = .ok (report, text)) : utf8 text ≠ [] := by
  have hline : ∃ message, text = message ++ "\n" := by
    cases a with
    | verdict n =>
      obtain ⟨verdict, -, heq⟩ := map_eq_ok_iff.mp h
      cases heq
      exact ⟨verdict.message, rfl⟩
    | nothing =>
      cases h
      exact ⟨"Nothing", rfl⟩
  obtain ⟨message, rfl⟩ := hline
  intro hnil
  have hlength := congrArg List.length hnil
  simp [utf8] at hlength

theorem bytes_of_ok (h : a.content = .ok (report, text)) : a.bytes = utf8 text := by
  rw [bytes, h]

theorem bytes_of_error (h : a.content = .error failure) : a.bytes = [] := by
  rw [bytes, h]

/-- An announcement adds its bytes to those that the sink was to take before. -/
theorem holds_make (hchunk : sink.profile.chunk ≠ some 0) (h : sink.Holds written) :
    (a.make sink).2.profile = sink.profile ∧ (a.make sink).2.Holds (written ++ a.bytes) := by
  cases hcontent : a.content with
  | error failure =>
    rw [make_of_error hcontent, bytes_of_error hcontent, List.append_nil]
    exact ⟨rfl, h⟩
  | ok content =>
    obtain ⟨report, text⟩ := content
    obtain ⟨written, -, hfills⟩ := make_of_ok hchunk hcontent
    rw [bytes_of_ok hcontent]
    exact ⟨hfills.profile_eq, h.fills hfills⟩

/--
The result of an announcement, where `all` is everything that was to be written
up to its own line.
-/
def outcome (profile : SinkProfile) (all : List UInt8) (a : Announcement) :
    Except Failure (Option Report) :=
  match a.content with
  | .error failure => .error failure
  | .ok (report, _) =>
    if profile.Fits all then .ok report else .error (.io profile.refusal.message)

theorem outcome_of_error (profile : SinkProfile) (all : List UInt8)
    (h : a.content = .error failure) : a.outcome profile all = .error failure := by
  rw [outcome, h]

theorem outcome_of_ok (profile : SinkProfile) (all : List UInt8)
    (h : a.content = .ok (report, text)) :
    a.outcome profile all =
      if profile.Fits all then .ok report else .error (.io profile.refusal.message) := by
  rw [outcome, h]

theorem make_eq_outcome (hchunk : sink.profile.chunk ≠ some 0) (h : sink.Holds written) :
    (a.make sink).1 = a.outcome sink.profile (written ++ a.bytes) := by
  cases hcontent : a.content with
  | error failure => rw [make_of_error hcontent, outcome_of_error _ _ hcontent]
  | ok content =>
    obtain ⟨report, text⟩ := content
    obtain ⟨yielded, hmake, hfills⟩ := make_of_ok hchunk hcontent
    obtain ⟨hfit, hfull⟩ := h.written_eq hfills (utf8_ne_nil hcontent)
    rw [hmake, outcome_of_ok _ _ hcontent, bytes_of_ok hcontent]
    by_cases hfits : sink.profile.Fits (written ++ utf8 text)
    · rw [hfit hfits, if_pos hfits]
      rfl
    · rw [hfull hfits, if_neg hfits]
      rfl

end One

/-! ## All announcements -/

section All

variable {sink : Sink} {written : List UInt8}

theorem holds_sinkAfter (announcements : List Announcement)
    (hchunk : sink.profile.chunk ≠ some 0) (h : sink.Holds written) :
    (sinkAfter sink announcements).profile = sink.profile ∧
      (sinkAfter sink announcements).Holds (written ++ allBytes announcements) := by
  induction announcements generalizing sink written with
  | nil =>
    rw [allBytes, List.flatMap_nil, List.append_nil]
    exact ⟨rfl, h⟩
  | cons a rest ih =>
    obtain ⟨hprofile, hholds⟩ := holds_make (a := a) hchunk h
    have hrest := ih (hprofile ▸ hchunk) hholds
    rw [hprofile, List.append_assoc] at hrest
    exact hrest

theorem length_results (sink : Sink) (announcements : List Announcement) :
    (results sink announcements).length = announcements.length := by
  induction announcements generalizing sink with
  | nil => rfl
  | cons a rest ih => rw [results, List.length_cons, List.length_cons, ih]

/-- The announcement at a position is made on the sink after those before it. -/
theorem getElem?_results (sink : Sink) (announcements : List Announcement) (i : Nat) :
    (results sink announcements)[i]? =
      announcements[i]?.map fun a => (a.make (sinkAfter sink (announcements.take i))).1 := by
  induction announcements generalizing sink i with
  | nil => rfl
  | cons a rest ih =>
    cases i with
    | zero => rfl
    | succ i =>
      rw [results, List.getElem?_cons_succ, List.getElem?_cons_succ, ih]
      rfl

theorem allBytes_take_succ {announcements : List Announcement} {i : Nat} {a : Announcement}
    (h : announcements[i]? = some a) :
    allBytes (announcements.take (i + 1)) = allBytes (announcements.take i) ++ a.bytes := by
  rw [List.take_add_one, h, Option.toList_some, allBytes, List.flatMap_append,
    List.flatMap_singleton]
  rfl

/-- What was to be written earlier comes first in what was to be written later. -/
theorem allBytes_take_of_le (announcements : List Announcement) {i j : Nat} (h : i ≤ j) :
    ∃ more, allBytes (announcements.take j) = allBytes (announcements.take i) ++ more := by
  refine ⟨allBytes ((announcements.drop i).take (j - i)), ?_⟩
  have hsplit : announcements.take j =
      announcements.take i ++ (announcements.drop i).take (j - i) := by
    rw [← List.take_add, Nat.add_sub_cancel' h]
  rw [hsplit, allBytes, List.flatMap_append]
  rfl

end All

/-- A check does not fail for the sink. -/
theorem content_ne_io (a : Announcement) (message : String) :
    a.content ≠ .error (.io message) := by
  cases a with
  | verdict n =>
    intro h
    have hcheck : (check n).result = .error (.io message) := map_eq_error_iff.mp h
    rcases input_cases n with hneg | ⟨hnonneg, hfits⟩ | ⟨hlarge, hlimit⟩ | hlimit
    · rw [check_of_neg hneg] at hcheck
      cases hcheck
    · rw [check_of_fits hnonneg hfits] at hcheck
      cases hcheck
    · rw [check_of_overflow hlarge hlimit] at hcheck
      cases hcheck
    · rw [check_of_limit_lt hlimit] at hcheck
      cases hcheck
  | nothing => exact nofun

/-- Where an announcement fails for the sink, what was to be written so far does not fit. -/
theorem not_fits_of_outcome {profile : SinkProfile} {all : List UInt8} {a : Announcement}
    {message : String} (h : a.outcome profile all = .error (.io message)) :
    ¬ profile.Fits all ∧ profile.refusal.message = message := by
  cases hcontent : a.content with
  | error failure =>
    rw [outcome_of_error _ _ hcontent] at h
    cases h
    exact absurd hcontent (content_ne_io a message)
  | ok content =>
    obtain ⟨report, text⟩ := content
    rw [outcome_of_ok _ _ hcontent] at h
    by_cases hfits : profile.Fits all
    · rw [if_pos hfits] at h
      cases h
    · rw [if_neg hfits] at h
      exact ⟨hfits, Failure.io.inj (Except.error.inj h)⟩

/-! ## Announcements on an empty sink -/

section Empty

variable {profile : SinkProfile} (hchunk : profile.chunk ≠ some 0)
  (announcements : List Announcement)
include hchunk

theorem bytes_sinkAfter_empty :
    (sinkAfter (.empty profile) announcements).bytes = profile.cut (allBytes announcements) := by
  obtain ⟨hprofile, hholds⟩ :=
    holds_sinkAfter announcements hchunk (Sink.holds_empty profile)
  rw [Sink.Holds, hprofile, List.nil_append] at hholds
  exact hholds

theorem getElem?_results_empty {i : Nat} {a : Announcement} (ha : announcements[i]? = some a) :
    (results (.empty profile) announcements)[i]? =
      some (a.outcome profile (allBytes (announcements.take (i + 1)))) := by
  obtain ⟨hprofile, hholds⟩ :=
    holds_sinkAfter (announcements.take i) hchunk (Sink.holds_empty profile)
  rw [List.nil_append] at hholds
  have hmake := make_eq_outcome (a := a) (hprofile ▸ hchunk) hholds
  rw [getElem?_results, ha, Option.map_some, hmake, hprofile, allBytes_take_succ ha]
  rfl

/-- Once the sink has made an announcement fail, it takes no later line either. -/
theorem getElem?_results_of_earlier {i j : Nat} {a : Announcement} {report : Option Report}
    {text message : String} (hlt : i < j)
    (hfailed : (results (.empty profile) announcements)[i]? = some (.error (.io message)))
    (ha : announcements[j]? = some a) (hcontent : a.content = .ok (report, text)) :
    (results (.empty profile) announcements)[j]? = some (.error (.io message)) := by
  have hi : i < announcements.length := by
    rw [← length_results (.empty profile) announcements]
    exact (List.getElem?_eq_some_iff.mp hfailed).1
  have hresult := getElem?_results_empty hchunk announcements (List.getElem?_eq_getElem hi)
  obtain ⟨hfull, hmessage⟩ :=
    not_fits_of_outcome (Option.some.inj (hresult.symm.trans hfailed))
  obtain ⟨more, hmore⟩ := allBytes_take_of_le announcements (Nat.succ_le_succ (Nat.le_of_lt hlt))
  have hlater : ¬ profile.Fits (allBytes (announcements.take (j + 1))) := by
    rw [hmore]
    exact fun hfits => hfull hfits.of_append
  rw [getElem?_results_empty hchunk announcements ha, outcome_of_ok _ _ hcontent, if_neg hlater,
    hmessage]

/-- Only the limit of a sink and the way it refuses what is beyond have a say in the results. -/
theorem results_congr {other : SinkProfile} (hother : other.chunk ≠ some 0)
    (hlimit : other.limit = profile.limit) (hrefusal : other.refusal = profile.refusal) :
    results (.empty other) announcements = results (.empty profile) announcements := by
  have hfits (text : List UInt8) : other.Fits text ↔ profile.Fits text := by
    rw [SinkProfile.Fits, SinkProfile.Fits, hlimit]
  have houtcome (a : Announcement) (all : List UInt8) :
      a.outcome other all = a.outcome profile all := by
    simp only [outcome, hfits, hrefusal]
  apply List.ext_getElem?
  intro i
  cases ha : announcements[i]? with
  | none =>
    rw [getElem?_results, getElem?_results, ha]
    rfl
  | some a =>
    rw [getElem?_results_empty hother announcements ha, houtcome,
      getElem?_results_empty hchunk announcements ha]

end Empty

/--
Announcements in order on one sink, of which each call accepts a byte at least
unless it is interrupted or the sink is full. The sink then holds the beginning
of all their lines, cut at its limit. A check that fails writes nothing; every
other announcement succeeds exactly if all lines up to its own fit, and once one
fails for the sink, so does every later one. How much one call accepts and which
calls are interrupted changes neither the results nor what the sink holds.
-/
theorem announcements_fill_sink (profile : SinkProfile) (hchunk : profile.chunk ≠ some 0)
    (announcements : List Announcement) :
    let sink := Sink.empty profile
    let results := Announcement.results sink announcements
    (sinkAfter sink announcements).bytes = profile.cut (allBytes announcements) ∧
    results.length = announcements.length ∧
    (∀ (i : Nat) (a : Announcement) (failure : Failure),
      announcements[i]? = some a → a.content = .error failure →
      results[i]? = some (.error failure) ∧
      sinkAfter sink (announcements.take (i + 1)) = sinkAfter sink (announcements.take i)) ∧
    (∀ (i : Nat) (a : Announcement) (report : Option Report) (text : String),
      announcements[i]? = some a → a.content = .ok (report, text) →
      results[i]? = some
        (if profile.Fits (allBytes (announcements.take (i + 1))) then .ok report
        else .error (.io profile.refusal.message))) ∧
    (∀ (i j : Nat) (a : Announcement) (report : Option Report) (text message : String),
      i < j → results[i]? = some (.error (.io message)) →
      announcements[j]? = some a → a.content = .ok (report, text) →
      results[j]? = some (.error (.io message))) ∧
    (∀ other : SinkProfile, other.chunk ≠ some 0 → other.limit = profile.limit →
      other.refusal = profile.refusal →
      Announcement.results (.empty other) announcements = results ∧
      (sinkAfter (.empty other) announcements).bytes = (sinkAfter sink announcements).bytes) := by
  intro sink results
  refine ⟨bytes_sinkAfter_empty hchunk announcements, length_results sink announcements,
    ?_, ?_, ?_, ?_⟩
  · intro i a failure ha hcontent
    constructor
    · rw [← outcome_of_error profile (allBytes (announcements.take (i + 1))) hcontent]
      exact getElem?_results_empty hchunk announcements ha
    · rw [List.take_add_one, ha, sinkAfter, List.foldl_append]
      exact congrArg Prod.snd (make_of_error hcontent)
  · intro i a report text ha hcontent
    rw [← outcome_of_ok profile _ hcontent]
    exact getElem?_results_empty hchunk announcements ha
  · intro i j a report text message hlt hfailed ha hcontent
    exact getElem?_results_of_earlier hchunk announcements hlt hfailed ha hcontent
  · intro other hother hlimit hrefusal
    refine ⟨results_congr hchunk announcements hother hlimit hrefusal, ?_⟩
    rw [bytes_sinkAfter_empty hother, bytes_sinkAfter_empty hchunk, SinkProfile.cut,
      SinkProfile.cut, hlimit]

/--
A pipe that takes three bytes at a time, is interrupted at every second call and
breaks after 20 bytes.
-/
def narrowPipe : SinkProfile :=
  ⟨some 20, some 3, some ⟨2, by decide⟩, .brokenPipe⟩

/-- The limit falls inside the second line, and a failed check stands in between. -/
theorem announcements_fill_narrowPipe :
    let sink := Sink.empty narrowPipe
    let announcements := [.verdict 5, .verdict (-1), .nothing, .verdict 3]
    narrowPipe.chunk ≠ some 0 ∧
    (sinkAfter sink announcements).bytes = utf8 "Not working :(\nNothi" ∧
    (results sink announcements)[0]? = some (.ok (some ⟨5, 0, 120, 120⟩)) ∧
    (results sink announcements)[1]? = some (.error (.invalidInput (-1))) ∧
    (results sink announcements)[2]? = some (.error (.io "broken pipe")) ∧
    (results sink announcements)[3]? = some (.error (.io "broken pipe")) := by
  intro sink announcements
  have hchunk : narrowPipe.chunk ≠ some 0 := by decide
  obtain ⟨hbytes, -, hfails, hsucceeds, hlater, -⟩ :=
    announcements_fill_sink narrowPipe hchunk announcements
  have hfirst := hsucceeds 0 (.verdict 5) (some ⟨5, 0, 120, 120⟩) "Not working :(\n" rfl
    (by decide +kernel)
  have hsecond := hfails 1 (.verdict (-1)) (.invalidInput (-1)) rfl (by decide +kernel)
  have hthird := hsucceeds 2 .nothing none "Nothing\n" rfl rfl
  rw [if_neg (by decide +kernel)] at hthird
  have hfourth := hlater 2 3 (.verdict 3) (some ⟨3, 0, 6, 6⟩) "Not working :(\n" _ (by decide)
    hthird rfl (by decide +kernel)
  rw [if_pos (by decide +kernel)] at hfirst
  exact ⟨hchunk, hbytes.trans (by decide +kernel), hfirst, hsecond.1, hthird, hfourth⟩

end Announcement

end FactorialCheck
