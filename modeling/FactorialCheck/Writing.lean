import FactorialCheck.Log.Traced
import FactorialCheck.Sink

/-!
# Writing computations

A computation that writes texts, logs events and may fail. What was written and
logged before a failure stays.
-/

namespace FactorialCheck

/-- Whatever texts are written to. Of a text that is refused a part may be accepted. -/
class Writer (σ : Type) where
  write : σ → String → Except Failure Unit × σ

instance : Writer Sink where
  write := Sink.write

/-- An output that accepts every text. -/
structure Console where
  text : String
  deriving DecidableEq, Repr

instance : Writer Console where
  write console text := (.ok (), ⟨console.text ++ text⟩)

def Writing (σ ε α : Type) : Type :=
  σ → Traced ε α × σ

namespace Writing

variable {σ ε α β : Type}

protected def pure (a : α) : Writing σ ε α :=
  fun out => (pure a, out)

/-- What follows a failure is not carried out. -/
protected def bind (w : Writing σ ε α) (f : α → Writing σ ε β) : Writing σ ε β :=
  fun out =>
    match w out with
    | (⟨events, .error e⟩, out) => (⟨events, .error e⟩, out)
    | (⟨events, .ok a⟩, out) =>
      let (rest, out) := f a out
      (⟨events ++ rest.events, rest.result⟩, out)

instance : Monad (Writing σ ε) where
  pure := Writing.pure
  bind := Writing.bind

/-- A computation that writes nothing. -/
def ofTraced (traced : Traced ε α) : Writing σ ε α :=
  fun out => (traced, out)

def write [Writer σ] (text : String) : Writing σ Failure Unit :=
  fun out =>
    let (written, out) := Writer.write out text
    (.ofExcept written, out)

/-- Writes a text and then the end of its line. -/
def writeLine [Writer σ] (text : String) : Writing σ Failure Unit := do
  write text
  write "\n"

def mapError {ε' : Type} (f : ε → ε') (w : Writing σ ε α) : Writing σ ε' α :=
  fun out =>
    let (traced, out) := w out
    (traced.mapError f, out)

theorem ofTraced_bind_ok {traced : Traced ε α} {a : α} (h : traced.result = .ok a)
    (f : α → Writing σ ε β) (out : σ) :
    (ofTraced traced >>= f) out =
      (⟨traced.events ++ (f a out).1.events, (f a out).1.result⟩, (f a out).2) := by
  cases traced with
  | mk events result =>
    cases h
    rfl

theorem ofTraced_bind_error {traced : Traced ε α} {e : ε} (h : traced.result = .error e)
    (f : α → Writing σ ε β) (out : σ) :
    (ofTraced traced >>= f) out = (⟨traced.events, .error e⟩, out) := by
  cases traced with
  | mk events result =>
    cases h
    rfl

theorem discard_ok {w : Writing σ ε α} {out next : σ} {events : List Log.Event} {a : α}
    (h : w out = (⟨events, .ok a⟩, next)) : (discard w) out = (⟨events, .ok ()⟩, next) := by
  change Writing.bind w (fun _ => Writing.pure ()) out = _
  rw [Writing.bind, h]
  simp [Writing.pure]

theorem discard_error {w : Writing σ ε α} {out next : σ} {events : List Log.Event} {e : ε}
    (h : w out = (⟨events, .error e⟩, next)) :
    (discard w) out = (⟨events, .error e⟩, next) := by
  change Writing.bind w (fun _ => Writing.pure ()) out = _
  rw [Writing.bind, h]

/-- What follows without writing, logging or failing only changes the result. -/
theorem bind_pure_apply (w : Writing σ ε α) (f : α → β) (out : σ) :
    (w >>= fun a => pure (f a)) out =
      (⟨(w out).1.events, (w out).1.result.map f⟩, (w out).2) := by
  change Writing.bind w (fun a => Writing.pure (f a)) out = _
  rw [Writing.bind]
  rcases w out with ⟨⟨events, result⟩, next⟩
  cases result with
  | error e => rfl
  | ok a => exact congrArg (fun events => (Traced.mk events _, _)) (List.append_nil events)

section Line

variable [Writer σ] {text : String} {out next : σ}

theorem writeLine_of_ok (h : Writer.write out text = (.ok (), next)) :
    writeLine text out = (.ofExcept (Writer.write next "\n").1, (Writer.write next "\n").2) := by
  change Writing.bind (write text) (fun _ => write "\n") out = _
  rw [Writing.bind, write, h]
  rfl

/-- The end of a line is not written where its text could not be. -/
theorem writeLine_of_error {failure : Failure}
    (h : Writer.write out text = (.error failure, next)) :
    writeLine text out = (⟨[], .error failure⟩, next) := by
  change Writing.bind (write text) (fun _ => write "\n") out = _
  rw [Writing.bind, write, h]
  rfl

theorem events_writeLine (text : String) (out : σ) : (writeLine text out).1.events = [] := by
  rcases h : Writer.write out text with ⟨written, next⟩
  cases written with
  | ok =>
    rw [writeLine_of_ok h]
    rfl
  | error failure => rw [writeLine_of_error h]

end Line

@[simp] theorem writeLine_console (text : String) (console : Console) :
    (writeLine text : Writing Console Failure Unit) console =
      (⟨[], .ok ()⟩, ⟨console.text ++ (text ++ "\n")⟩) := by
  rw [← String.append_assoc]
  rfl

@[simp] theorem writeLine_bind_console (text : String) (f : Unit → Writing Console Failure α)
    (console : Console) :
    (writeLine text >>= f) console = f () ⟨console.text ++ (text ++ "\n")⟩ := by
  rw [← String.append_assoc]
  rfl

@[simp] theorem mapError_apply {ε' : Type} (f : ε → ε') (w : Writing σ ε α) (out : σ) :
    w.mapError f out = ((w out).1.mapError f, (w out).2) :=
  rfl

end Writing

end FactorialCheck
