import FactorialCheck.Log.Event

/-!
# Traced computations

A computation that may fail and logs events on the way. The events before a
failure are kept.
-/

namespace FactorialCheck

structure Traced (ε α : Type) where
  events : List Log.Event
  result : Except ε α

namespace Traced

variable {ε α β : Type}

protected def pure (a : α) : Traced ε α :=
  ⟨[], .ok a⟩

protected def bind (t : Traced ε α) (f : α → Traced ε β) : Traced ε β :=
  match t.result with
  | .ok a => ⟨t.events ++ (f a).events, (f a).result⟩
  | .error e => ⟨t.events, .error e⟩

instance : Monad (Traced ε) where
  pure := Traced.pure
  bind := Traced.bind

/-- A computation that logs nothing. -/
def ofExcept (result : Except ε α) : Traced ε α :=
  ⟨[], result⟩

/-- Logs one event. -/
def emit (event : Log.Event) : Traced ε Unit :=
  ⟨[event], .ok ()⟩

def mapError {ε' : Type} (f : ε → ε') (t : Traced ε α) : Traced ε' α :=
  ⟨t.events, t.result.mapError f⟩

@[simp] theorem pure_eq (a : α) : (pure a : Traced ε α) = ⟨[], .ok a⟩ :=
  rfl

@[simp] theorem ok_bind (events : List Log.Event) (a : α) (f : α → Traced ε β) :
    (⟨events, .ok a⟩ : Traced ε α) >>= f = ⟨events ++ (f a).events, (f a).result⟩ :=
  rfl

@[simp] theorem error_bind (events : List Log.Event) (e : ε) (f : α → Traced ε β) :
    (⟨events, .error e⟩ : Traced ε α) >>= f = ⟨events, .error e⟩ :=
  rfl

/-- The log lines at a threshold, whatever their targets. -/
def linesUpTo (threshold : Log.Threshold) (t : Traced ε α) : List String :=
  (t.events.filter fun event => threshold.admits event.level).map Log.Event.line

end Traced

end FactorialCheck
