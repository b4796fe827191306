/-!
# Computations that leave a trace

What a computation asks of the outside, and in which order, is part of its outcome: a `Trace` holds
the events of a computation with its result. Traces are joined by `Trace.bind`, which stops at the
first error, so that nothing is asked after it.
-/

namespace Converge

/-- The events of a computation in their order, and its result. -/
structure Trace (event error α : Type) where
  events : List event
  result : Except error α

namespace Trace

variable {event error α β : Type}

/-- The computation without events that has a result. -/
def of (result : Except error α) : Trace event error α := ⟨[], result⟩

/-- The computation of one event. -/
def ask (question : event) (answer : Except error α) : Trace event error α := ⟨[question], answer⟩

/-- A computation that goes on with the value of another one, unless that fails. -/
def bind (first : Trace event error α) (next : α → Trace event error β) : Trace event error β :=
  match first.result with
  | .error failure => ⟨first.events, .error failure⟩
  | .ok value => ⟨first.events ++ (next value).events, (next value).result⟩

instance : Monad (Trace event error) where
  pure value := of (.ok value)
  bind := bind

end Trace

end Converge
