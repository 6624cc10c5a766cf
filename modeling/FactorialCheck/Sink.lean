import FactorialCheck.Failure

/-!
# Sinks

A sink takes the bytes of a text in as many calls as it likes: it may take a
few at a time, be interrupted, and refuse what goes beyond its limit.
-/

namespace FactorialCheck

/-- How a full sink answers. -/
inductive Refusal where
  /-- It accepts no byte. -/
  | acceptsNothing
  /-- Nobody reads the other end. -/
  | brokenPipe
  /-- It fails with this text. -/
  | other (text : String)
  deriving DecidableEq, Repr

/-- The text of the failure when the sink is full. -/
def Refusal.message : Refusal → String
  | .acceptsNothing => "failed to write whole buffer"
  | .brokenPipe => "broken pipe"
  | .other text => text

structure SinkProfile where
  /-- Most bytes accepted in all. -/
  limit : Option Nat
  /-- Most bytes accepted by one call. -/
  chunk : Option Nat
  /-- Every call whose number the period divides is interrupted; two in a row never are. -/
  interruptEvery : Option { period : Nat // 2 ≤ period }
  refusal : Refusal
  deriving DecidableEq, Repr

/-- A sink without limits. -/
def SinkProfile.unlimited : SinkProfile :=
  ⟨none, none, none, .acceptsNothing⟩

structure Sink where
  profile : SinkProfile
  /-- What was accepted so far. -/
  bytes : List UInt8
  /-- Number of calls so far. -/
  calls : Nat
  deriving DecidableEq, Repr

/-- What one call answers. -/
inductive WriteReply where
  | interrupted
  | accepted (count : Nat)
  | failed (text : String)
  deriving DecidableEq, Repr

/-- The bytes of a text. -/
def utf8 (text : String) : List UInt8 :=
  text.toUTF8.data.toList

namespace Sink

def empty (profile : SinkProfile) : Sink :=
  ⟨profile, [], 0⟩

/-- Whether the next call is interrupted. -/
def interruptDue (s : Sink) : Bool :=
  match s.profile.interruptEvery with
  | none => false
  | some period => decide (period.val ∣ s.calls + 1)

/-- Bytes that still fit, if there is a limit. -/
def room (s : Sink) : Option Nat :=
  s.profile.limit.map fun limit => limit - s.bytes.length

/-- How many of `offered` bytes a call accepts as far as the sink has room. -/
def share (s : Sink) (offered : Nat) : Nat :=
  min (min offered (s.profile.chunk.getD offered)) (s.room.getD offered)

/-- What a call answers when the sink is full. -/
def refuse : Refusal → WriteReply
  | .acceptsNothing => .accepted 0
  | refusal => .failed refusal.message

/-- One call to write. -/
def call (s : Sink) (data : List UInt8) : WriteReply × Sink :=
  let next := { s with calls := s.calls + 1 }
  if s.interruptDue then (.interrupted, next)
  else if s.room = some 0 then (refuse s.profile.refusal, next)
  else
    let count := s.share data.length
    (.accepted count, { next with bytes := s.bytes ++ data.take count })

@[simp] theorem profile_call (s : Sink) (data : List UInt8) :
    (s.call data).2.profile = s.profile := by
  simp only [call]
  split
  · rfl
  · split <;> rfl

@[simp] theorem calls_call (s : Sink) (data : List UInt8) :
    (s.call data).2.calls = s.calls + 1 := by
  simp only [call]
  split
  · rfl
  · split <;> rfl

/-- Only a call that is due is interrupted. -/
theorem interruptDue_of_interrupted {s : Sink} {data : List UInt8}
    (h : (s.call data).1 = .interrupted) : s.interruptDue = true := by
  simp only [call] at h
  split at h
  · assumption
  · split at h
    · unfold refuse at h
      split at h <;> cases h
    · cases h

/-- After an interrupted call the next one goes through. -/
theorem interruptDue_call {s : Sink} (data : List UInt8) (h : s.interruptDue = true) :
    (s.call data).2.interruptDue = false := by
  unfold interruptDue at h ⊢
  rw [profile_call, calls_call]
  split at h
  · cases h
  · rename_i period hperiod
    simp only [decide_eq_true_eq] at h
    simp only [decide_eq_false_iff_not]
    intro hnext
    have hone := (Nat.dvd_add_right h).mp hnext
    have := Nat.le_of_dvd (by decide) hone
    have := period.property
    omega

/--
Writes all of `data`, again after each interruption. A call that accepts no byte
is a failure.
-/
def writeAll (s : Sink) (data : List UInt8) : Except String Unit × Sink :=
  if data.length = 0 then (.ok (), s)
  else
    match hcall : s.call data with
    | (.interrupted, next) => writeAll next data
    | (.failed text, next) => (.error text, next)
    | (.accepted 0, next) => (.error Refusal.acceptsNothing.message, next)
    | (.accepted (count + 1), next) => writeAll next (data.drop (count + 1))
termination_by 2 * data.length + s.interruptDue.toNat
decreasing_by
  · have hdue : s.interruptDue = true := interruptDue_of_interrupted (by rw [hcall])
    have hnext : next.interruptDue = false := by
      have := interruptDue_call data hdue
      rwa [hcall] at this
    simp [hdue, hnext]
  · have hle := Bool.toNat_le next.interruptDue
    simp only [List.length_drop]
    omega

/-- Writes a text. -/
def write (s : Sink) (text : String) : Except Failure Unit × Sink :=
  let (written, next) := s.writeAll (utf8 text)
  (written.mapError .io, next)

/-- The text accepted so far; none if it was cut inside a character. -/
def text? (s : Sink) : Option String :=
  String.fromUTF8? ⟨s.bytes.toArray⟩

end Sink

end FactorialCheck
