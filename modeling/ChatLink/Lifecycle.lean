/-!
# The life of a connection

A connection goes from idle through connecting, established and active to closing and closed.
`Lifecycle.advance` only ever moves forward; a forced change goes anywhere, for failures and for
the next connection after a closed one.
-/

namespace ChatLink

/-- The states of a connection in the order in which they are passed. -/
inductive Lifecycle where
  /-- No connection was ever begun. -/
  | idle
  /-- An attempt to connect is under way. -/
  | connecting
  /-- The transport is open, and the greeting is not written yet. -/
  | established
  /-- Envelopes and events flow. -/
  | active
  /-- The connection is being ended. -/
  | closing
  | closed
  deriving DecidableEq, Repr

namespace Lifecycle

/-- The place of a state in the order. -/
def rank : Lifecycle → Nat
  | idle => 0
  | connecting => 1
  | established => 2
  | active => 3
  | closing => 4
  | closed => 5

/-- The word for a state. -/
def name : Lifecycle → String
  | idle => "idle"
  | connecting => "connecting"
  | established => "established"
  | active => "active"
  | closing => "closing"
  | closed => "closed"

/-- The capitalised word for a state, used in descriptions of a client. -/
def title : Lifecycle → String
  | idle => "Idle"
  | connecting => "Connecting"
  | established => "Established"
  | active => "Active"
  | closing => "Closing"
  | closed => "Closed"

/-- A session exists or is being set up. -/
def isLive : Lifecycle → Bool
  | connecting | established | active => true
  | idle | closing | closed => false

instance : LT Lifecycle where
  lt s t := s.rank < t.rank

instance (s t : Lifecycle) : Decidable (s < t) := inferInstanceAs (Decidable (s.rank < t.rank))

/-- The state after a wish to move on, and whether it was granted : only a later state is taken. -/
def advance (current next : Lifecycle) : Lifecycle × Bool :=
  if current < next then (next, true) else (current, false)

end Lifecycle

end ChatLink
