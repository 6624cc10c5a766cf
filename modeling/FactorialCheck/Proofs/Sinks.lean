import FactorialCheck.Sink

/-!
# What a sink holds

However few bytes a call accepts and whichever calls are interrupted, a write
adds as many bytes as the sink has room for. It fails exactly if not all of them
fit, and then as the full sink does.
-/

namespace FactorialCheck

namespace Sink

/-! ## One call -/

/-- How many of `offered` bytes there is room for; more than those if there is no limit. -/
def capacity (s : Sink) (offered : Nat) : Nat :=
  s.room.getD offered

/-- The sink after a call that accepted `taken`. -/
def after (s : Sink) (taken : List UInt8) : Sink :=
  ⟨s.profile, s.bytes ++ taken, s.calls + 1⟩

/-- Every way in which a call can answer to `data`. -/
inductive Takes (s : Sink) (data : List UInt8) : WriteReply → Sink → Prop where
  | interrupted : Takes s data .interrupted (s.after [])
  | refused {reply : WriteReply} :
      s.room = some 0 → reply = refuse s.profile.refusal → Takes s data reply (s.after [])
  | accepted {count : Nat} :
      0 < count → count ≤ data.length → count ≤ s.capacity data.length →
        Takes s data (.accepted count) (s.after (data.take count))

/-- A call that is not refused makes progress. -/
theorem share_pos {s : Sink} {offered : Nat} (hchunk : s.profile.chunk ≠ some 0)
    (hroom : s.room ≠ some 0) (hoffered : 0 < offered) : 0 < s.share offered := by
  have hcall : 0 < s.profile.chunk.getD offered := by
    cases h : s.profile.chunk with
    | none => exact hoffered
    | some most =>
      refine Nat.pos_of_ne_zero fun hzero => hchunk ?_
      rw [h, show most = 0 from hzero]
  have hfree : 0 < s.room.getD offered := by
    cases h : s.room with
    | none => exact hoffered
    | some free =>
      refine Nat.pos_of_ne_zero fun hzero => hroom ?_
      rw [h, show free = 0 from hzero]
  rw [share]
  omega

theorem takes_of_call {s next : Sink} {data : List UInt8} {reply : WriteReply}
    (hchunk : s.profile.chunk ≠ some 0) (hdata : data.length ≠ 0)
    (hcall : s.call data = (reply, next)) : Takes s data reply next := by
  have hidle : { s with calls := s.calls + 1 } = s.after [] := by
    rw [after, List.append_nil]
  rw [call] at hcall
  by_cases hdue : s.interruptDue = true
  · rw [if_pos hdue, hidle] at hcall
    cases hcall
    exact .interrupted
  · rw [if_neg hdue] at hcall
    by_cases hroom : s.room = some 0
    · rw [if_pos hroom, hidle] at hcall
      cases hcall
      exact .refused hroom rfl
    · rw [if_neg hroom] at hcall
      cases hcall
      have hpos := share_pos hchunk hroom (Nat.pos_of_ne_zero hdata)
      have hoffered : s.share data.length ≤ data.length := by
        rw [share]
        omega
      have hfits : s.share data.length ≤ s.capacity data.length := by
        rw [share, capacity]
        omega
      exact .accepted hpos hoffered hfits

/-- What was accepted takes up its room. -/
theorem capacity_of_bytes_eq {s next : Sink} {taken : List UInt8}
    (hprofile : next.profile = s.profile) (hbytes : next.bytes = s.bytes ++ taken)
    (offered : Nat) :
    next.capacity offered = s.capacity (taken.length + offered) - taken.length := by
  rw [capacity, capacity, room, room, hprofile, hbytes]
  cases s.profile.limit with
  | none => exact (Nat.add_sub_cancel_left ..).symm
  | some limit =>
    simp only [Option.map_some, Option.getD_some, List.length_append]
    omega

theorem capacity_after (s : Sink) (data : List UInt8) {count : Nat} (h : count ≤ data.length) :
    (s.after (data.take count)).capacity (data.length - count) =
      s.capacity data.length - count := by
  have hlength : (data.take count).length = count := List.length_take_of_le h
  have hprofile : (s.after (data.take count)).profile = s.profile := rfl
  have hbytes : (s.after (data.take count)).bytes = s.bytes ++ data.take count := rfl
  have hcapacity := capacity_of_bytes_eq hprofile hbytes (data.length - count)
  rwa [hlength, Nat.add_sub_cancel' h] at hcapacity

/-- What there is room for has room at the beginning of more, -/
theorem le_capacity_add (s : Sink) {offered : Nat} (h : offered ≤ s.capacity offered)
    (more : Nat) : offered ≤ s.capacity (offered + more) := by
  rw [capacity] at h ⊢
  cases hroom : s.room with
  | none => exact Nat.le_add_right ..
  | some free =>
    rw [hroom] at h
    exact h

/-- and where there is too little room there is no more of it for more. -/
theorem capacity_add_of_lt (s : Sink) {offered : Nat} (h : s.capacity offered < offered)
    (more : Nat) : s.capacity (offered + more) = s.capacity offered := by
  rw [capacity] at h
  rw [capacity, capacity]
  cases hroom : s.room with
  | none =>
    rw [hroom] at h
    exact absurd h (Nat.lt_irrefl offered)
  | some free => rfl

/-! ## All calls of a write -/

/-- As much of `data` is written as there is room for. -/
structure Fills (s : Sink) (data : List UInt8) (written : Except String Unit) (next : Sink) :
    Prop where
  profile_eq : next.profile = s.profile
  bytes_eq : next.bytes = s.bytes ++ data.take (s.capacity data.length)
  written_eq : written =
    if data.length ≤ s.capacity data.length then .ok ()
    else .error s.profile.refusal.message

/-- An interrupted call only counts. -/
theorem Fills.of_interrupted {s next : Sink} {data : List UInt8} {written : Except String Unit}
    (h : Fills (s.after []) data written next) : Fills s data written next := by
  obtain ⟨hprofile, hbytes, hwritten⟩ := h
  have hcapacity : (s.after []).capacity data.length = s.capacity data.length := by
    have hnone := s.capacity_after data (Nat.zero_le data.length)
    rwa [List.take_zero, Nat.sub_zero, Nat.sub_zero] at hnone
  rw [hcapacity] at hbytes hwritten
  refine ⟨hprofile, ?_, hwritten⟩
  rw [hbytes, after, List.append_nil]

/-- What one call accepted and what the later ones did with the rest belong together. -/
theorem Fills.of_accepted {s next : Sink} {data : List UInt8} {count : Nat}
    {written : Except String Unit} (hoffered : count ≤ data.length)
    (hfits : count ≤ s.capacity data.length)
    (h : Fills (s.after (data.take count)) (data.drop count) written next) :
    Fills s data written next := by
  obtain ⟨hprofile, hbytes, hwritten⟩ := h
  rw [List.length_drop, s.capacity_after data hoffered] at hbytes hwritten
  refine ⟨hprofile, ?_, ?_⟩
  · have hsplit : s.capacity data.length = count + (s.capacity data.length - count) := by
      omega
    rw [hbytes, after, List.append_assoc, ← List.take_add, ← hsplit]
  · have hsame : data.length - count ≤ s.capacity data.length - count ↔
        data.length ≤ s.capacity data.length := by
      omega
    rw [hwritten]
    simp only [hsame]
    rfl

theorem Fills.fits_of_ok {s next : Sink} {data : List UInt8} (h : Fills s data (.ok ()) next) :
    data.length ≤ s.capacity data.length := by
  have hwritten := h.written_eq
  by_cases hfits : data.length ≤ s.capacity data.length
  · exact hfits
  · rw [if_neg hfits] at hwritten
    cases hwritten

theorem Fills.full_of_error {s next : Sink} {data : List UInt8} {message : String}
    (h : Fills s data (.error message) next) : s.capacity data.length < data.length := by
  have hwritten := h.written_eq
  by_cases hfits : data.length ≤ s.capacity data.length
  · rw [if_pos hfits] at hwritten
    cases hwritten
  · exact Nat.lt_of_not_le hfits

/-- Two writes in a row do what one of both texts would, if the first goes through, -/
theorem Fills.append {s next last : Sink} {first second : List UInt8}
    {written : Except String Unit} (h : Fills s first (.ok ()) next)
    (hsecond : Fills next second written last) : Fills s (first ++ second) written last := by
  have hfits := h.fits_of_ok
  have hbytes : next.bytes = s.bytes ++ first := by rw [h.bytes_eq, List.take_of_length_le hfits]
  have hcapacity := capacity_of_bytes_eq h.profile_eq hbytes second.length
  have hroom := s.le_capacity_add hfits second.length
  refine ⟨hsecond.profile_eq.trans h.profile_eq, ?_, ?_⟩
  · rw [hsecond.bytes_eq, hbytes, hcapacity, List.length_append, List.append_assoc,
      List.take_append, List.take_of_length_le hroom]
  · have hsame : second.length ≤ s.capacity (first.length + second.length) - first.length ↔
        first.length + second.length ≤ s.capacity (first.length + second.length) := by
      omega
    rw [hsecond.written_eq, hcapacity, List.length_append, h.profile_eq]
    simp only [hsame]

/-- and if it fails, the first alone does so. -/
theorem Fills.append_of_error {s next : Sink} {first : List UInt8} {message : String}
    (h : Fills s first (.error message) next) (second : List UInt8) :
    Fills s (first ++ second) (.error message) next := by
  have hfull := h.full_of_error
  have hcapacity := s.capacity_add_of_lt hfull second.length
  have hlarge : ¬ first.length + second.length ≤ s.capacity first.length := by omega
  refine ⟨h.profile_eq, ?_, ?_⟩
  · rw [h.bytes_eq, List.length_append, hcapacity,
      List.take_append_of_le_length (Nat.le_of_lt hfull)]
  · rw [h.written_eq, List.length_append, hcapacity, if_neg (Nat.not_le_of_lt hfull),
      if_neg hlarge]

/-- What a write does after the answer to its first call. -/
def resume (data : List UInt8) : WriteReply × Sink → Except String Unit × Sink
  | (.interrupted, next) => next.writeAll data
  | (.failed text, next) => (.error text, next)
  | (.accepted 0, next) => (.error Refusal.acceptsNothing.message, next)
  | (.accepted (count + 1), next) => next.writeAll (data.drop (count + 1))

theorem writeAll_of_call {s next : Sink} {data : List UInt8} {reply : WriteReply}
    (hdata : data.length ≠ 0) (hcall : s.call data = (reply, next)) :
    s.writeAll data = resume data (reply, next) := by
  rw [writeAll, if_neg hdata, ← hcall]
  split <;> rename_i hcase <;> rw [hcase, resume]

/-- A full sink takes nothing of what is left, and ends the write with its own message. -/
theorem Fills.of_refused {s : Sink} {data : List UInt8} {reply : WriteReply}
    (hdata : data.length ≠ 0) (hroom : s.room = some 0)
    (hreply : reply = refuse s.profile.refusal) :
    Fills s data (resume data (reply, s.after [])).1 (resume data (reply, s.after [])).2 := by
  have hresume : resume data (reply, s.after []) =
      (.error s.profile.refusal.message, s.after []) := by
    rw [hreply]
    cases s.profile.refusal <;> rfl
  have hcapacity : s.capacity data.length = 0 := by
    rw [capacity, hroom]
    rfl
  rw [hresume]
  refine ⟨rfl, ?_, ?_⟩
  · rw [hcapacity]
    rfl
  · rw [hcapacity, if_neg]
    omega

/-- The calls of a write together take what there is room for, whatever each of them takes. -/
theorem fills_writeAll {s : Sink} (data : List UInt8) (hchunk : s.profile.chunk ≠ some 0) :
    Fills s data (s.writeAll data).1 (s.writeAll data).2 := by
  induction s, data using writeAll.induct with
  | case1 s data hnil =>
    obtain rfl : data = [] := List.length_eq_zero_iff.mp hnil
    rw [writeAll, if_pos hnil]
    exact ⟨rfl, by rw [List.take_nil, List.append_nil], rfl⟩
  | case2 s data hdata next hcall ih =>
    rw [writeAll_of_call hdata hcall]
    cases takes_of_call hchunk hdata hcall with
    | interrupted => exact .of_interrupted (ih hchunk)
    | refused hroom hreply => exact .of_refused hdata hroom hreply
  | case3 s data hdata text next hcall =>
    rw [writeAll_of_call hdata hcall]
    cases takes_of_call hchunk hdata hcall with
    | refused hroom hreply => exact .of_refused hdata hroom hreply
  | case4 s data hdata next hcall =>
    rw [writeAll_of_call hdata hcall]
    cases takes_of_call hchunk hdata hcall with
    | refused hroom hreply => exact .of_refused hdata hroom hreply
    | accepted hpos => exact absurd hpos (Nat.lt_irrefl 0)
  | case5 s data hdata count next hcall ih =>
    rw [writeAll_of_call hdata hcall]
    cases takes_of_call hchunk hdata hcall with
    | refused hroom hreply => exact .of_refused hdata hroom hreply
    | accepted hpos hoffered hfits => exact .of_accepted hoffered hfits (ih hchunk)

end Sink

/-! ## All writes to a sink -/

namespace SinkProfile

/-- What the limit lets through of all the bytes that are written. -/
def cut (profile : SinkProfile) (text : List UInt8) : List UInt8 :=
  match profile.limit with
  | none => text
  | some limit => text.take limit

/-- There is no limit, or the bytes stay within it. -/
def Fits (profile : SinkProfile) (text : List UInt8) : Prop :=
  ∀ limit ∈ profile.limit, text.length ≤ limit

instance (profile : SinkProfile) (text : List UInt8) : Decidable (profile.Fits text) :=
  inferInstanceAs (Decidable (∀ limit ∈ profile.limit, text.length ≤ limit))

theorem cut_of_unlimited {profile : SinkProfile} (h : profile.limit = none)
    (text : List UInt8) : profile.cut text = text := by
  rw [cut, h]

theorem cut_of_limit {profile : SinkProfile} {limit : Nat} (h : profile.limit = some limit)
    (text : List UInt8) : profile.cut text = text.take limit := by
  rw [cut, h]

theorem cut_nil (profile : SinkProfile) : profile.cut [] = [] := by
  cases h : profile.limit with
  | none => exact cut_of_unlimited h []
  | some limit => rw [cut_of_limit h, List.take_nil]

/-- What does not fit will not fit with more behind it. -/
theorem Fits.of_append {profile : SinkProfile} {text more : List UInt8}
    (h : profile.Fits (text ++ more)) : profile.Fits text := by
  intro limit hlimit
  have hle := h limit hlimit
  rw [List.length_append] at hle
  omega

end SinkProfile

namespace Sink

/-- Of `text`, which was written so far, the sink holds what its limit lets through. -/
def Holds (s : Sink) (text : List UInt8) : Prop :=
  s.bytes = s.profile.cut text

variable {s next : Sink} {text data : List UInt8} {written : Except String Unit}

theorem holds_empty (profile : SinkProfile) : (empty profile).Holds [] :=
  profile.cut_nil.symm

theorem capacity_of_unlimited (h : s.profile.limit = none) (offered : Nat) :
    s.capacity offered = offered := by
  rw [capacity, room, h]
  rfl

/-- There is room for what the limit leaves behind `text`. -/
theorem Holds.capacity_of_limit (h : s.Holds text) {limit : Nat}
    (hlimit : s.profile.limit = some limit) (offered : Nat) :
    s.capacity offered = limit - text.length := by
  rw [Holds, SinkProfile.cut_of_limit hlimit] at h
  rw [capacity, room, hlimit, h]
  simp only [Option.map_some, Option.getD_some, List.length_take]
  omega

theorem Holds.fills (h : s.Holds text) (hfills : Fills s data written next) :
    next.Holds (text ++ data) := by
  have hbytes : s.bytes = s.profile.cut text := h
  rw [Holds, hfills.bytes_eq, hfills.profile_eq, hbytes]
  cases hlimit : s.profile.limit with
  | none =>
    rw [SinkProfile.cut_of_unlimited hlimit, SinkProfile.cut_of_unlimited hlimit,
      capacity_of_unlimited hlimit, List.take_length]
  | some limit =>
    rw [SinkProfile.cut_of_limit hlimit, SinkProfile.cut_of_limit hlimit,
      h.capacity_of_limit hlimit, List.take_append]

/-- A write succeeds exactly if all that was written up to its end fits. -/
theorem Holds.written_eq (h : s.Holds text) (hfills : Fills s data written next)
    (hdata : data ≠ []) :
    (s.profile.Fits (text ++ data) → written = .ok ()) ∧
      (¬ s.profile.Fits (text ++ data) → written = .error s.profile.refusal.message) := by
  have hpos : 0 < data.length := List.length_pos_iff.mpr hdata
  have hiff : s.profile.Fits (text ++ data) ↔ data.length ≤ s.capacity data.length := by
    rw [SinkProfile.Fits, List.length_append]
    cases hlimit : s.profile.limit with
    | none =>
      rw [capacity_of_unlimited hlimit]
      exact ⟨fun _ => Nat.le_refl _, fun _ limit hnone => nomatch hnone⟩
    | some limit =>
      rw [h.capacity_of_limit hlimit]
      constructor
      · intro hfits
        have hle := hfits limit rfl
        omega
      · intro hle other hother
        cases hother
        omega
  rw [hiff, hfills.written_eq]
  exact ⟨fun hle => if_pos hle, fun hgt => if_neg hgt⟩

end Sink

end FactorialCheck
