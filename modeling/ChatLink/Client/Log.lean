import ChatLink.Callback
import ChatLink.Error
import ChatLink.Event
import ChatLink.Lifecycle

/-!
# What happens on a connection

The service of a connection leaves a log : attempts and their outcomes, writes, events that a
callback was called for, and what the callback did.
-/

namespace ChatLink

/-- What a call gives back. -/
inductive Outcome where
  | ok
  | refused (error : Error)
  | state (s : Lifecycle)
  | nothing
  /-- The call waits for its own caller, and does not return. -/
  | stuck
  deriving DecidableEq, Repr

/-- One entry of a log. -/
inductive Entry where
  /-- An attempt to connect begins. -/
  | connect (url : String)
  /-- The attempt failed. -/
  | refused
  /-- A write began and waits. -/
  | stalled (payload : String)
  | write (payload : String)
  | writeFailed (payload : String)
  /-- The service closed the transport. -/
  | close
  /-- The callback was called for an event. -/
  | event (callback : String) (e : Event)
  /-- An action of the callback is done. -/
  | acted (action : Action) (outcome : Outcome)

end ChatLink
