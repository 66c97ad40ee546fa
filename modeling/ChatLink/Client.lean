import ChatLink.Client.Log
import ChatLink.Client.Peer
import ChatLink.Endpoint
import ChatLink.Outbox
import ChatLink.Settings

/-!
# Clients

A client has settings, a lifecycle state, a callback that handles messages, and the session of its
latest service. The session outlives the service : when the service has ended, its outbox and the
request to stop are still there, until somebody takes the session down.

`submit` is what joining, leaving and sending come to : an envelope goes into the outbox of the
session, and the service writes it later.
-/

namespace ChatLink

/-- Where a service stands. An open transport has an inbox of items that are not consumed yet. -/
inductive Stage where
  /-- The attempt to connect waits to be let in. -/
  | held
  /-- The transport is open, and the write of the greeting waits. -/
  | greeting (inbox : List Item)
  /-- The greeting is written; the write of the pending envelope waits. -/
  | serving (inbox : List Item) (pending : Option Envelope)
  /-- The state is forced to closed. The transport, if there is one, is about to be closed. -/
  | leaving (inbox : Option (List Item))
  /-- The closing of the transport is waited for, for so many milliseconds more. -/
  | parting (farewell : Farewell) (grace : Nat)
  /-- The service has ended, and has handed its outbox back. -/
  | ended
  /-- A callback broke down. There is no service any more, and nobody has noticed. -/
  | panicked
  deriving DecidableEq, Repr

namespace Stage

/-- The inbox of the open transport. -/
def inbox? : Stage → Option (List Item)
  | greeting inbox => some inbox
  | serving inbox _ => some inbox
  | leaving inbox => inbox
  | held | parting _ _ | ended | panicked => none

/-- The stage with one more item in the inbox, if a transport is open. -/
def receive (item : Item) : Stage → Option Stage
  | greeting inbox => some (greeting (inbox ++ [item]))
  | serving inbox pending => some (serving (inbox ++ [item]) pending)
  | leaving (some inbox) => some (leaving (some (inbox ++ [item])))
  | held | leaving none | parting _ _ | ended | panicked => none

end Stage

/-- A service with its outbox. -/
structure Session where
  /-- The thread of the service; no two services have the same. -/
  thread : Nat
  stage : Stage
  outbox : Outbox
  /-- Somebody asked the service to stop. -/
  stopping : Bool
  deriving DecidableEq, Repr

/-- A session whose attempt begins on this thread. -/
def Session.initial (thread : Nat) : Session := ⟨thread, .held, .initial, false⟩

/-- Who makes a call. -/
inductive Origin where
  | application
  /-- A service on this thread, which runs a callback. -/
  | service (thread : Nat)
  deriving DecidableEq, Repr

/-- A client together with the server that it reaches. -/
structure Client where
  settings : Settings
  /-- How the endpoint is read. -/
  reader : Address.Reader
  peer : Peer
  state : Lifecycle
  callback : Option Callback
  session : Option Session
  /-- The thread of the latest service, as long as nobody has waited for its end. -/
  serviceThread : Option Nat
  /-- How many threads there ever were. -/
  threads : Nat

namespace Client

/-- A client that was never connected. -/
def new (reader : Address.Reader) (settings : Settings) : Client where
  settings := settings
  reader := reader
  peer := .initial
  state := .idle
  callback := none
  session := none
  serviceThread := none
  threads := 0

/-- The stage of the service, if there is a session. -/
def stage? (c : Client) : Option Stage := c.session.map (·.stage)

/-- The client with another session. -/
def withSession (c : Client) (s : Session) : Client := { c with session := some s }

/-- The call is made by the client's own service. -/
def OnServiceThread (c : Client) (origin : Origin) : Prop :=
  c.serviceThread.map .service = some origin

instance (c : Client) (origin : Origin) : Decidable (c.OnServiceThread origin) :=
  inferInstanceAs (Decidable (_ = _))

/-- Who makes the calls of a callback. -/
def handler (c : Client) : Origin :=
  match c.session with
  | some s => .service s.thread
  | none => .application

/-- What a wish to connect is refused for before anything is done about it. -/
def refusal? (c : Client) (origin : Origin) : Option Error :=
  if c.OnServiceThread origin then some .alreadyConnected
  else
    match c.settings.check with
    | .error error => some error
    | .ok () => if c.state.isLive then some .alreadyConnected else none

/-- Puts an envelope into the outbox of the session. -/
def submit (c : Client) (e : Envelope) : Client × Outcome :=
  if c.state = .idle ∨ c.state = .closed then (c, .refused .notConnected)
  else
    match c.session with
    | none => (c, .refused .notConnected)
    | some s =>
      match s.outbox.enqueue e with
      | .ok outbox => (c.withSession { s with outbox := outbox }, .ok)
      | .error error => (c, .refused error)

/-- Asks the service to stop. -/
def requestStop (c : Client) : Client :=
  { c with session := c.session.map fun s => { s with stopping := true } }

/-- The service breaks down, and its transport and the receiving side of its outbox are gone. The
state stays what it was. -/
def crash (c : Client) : Client :=
  { c with
    session := c.session.map fun s =>
      { s with stage := .panicked, outbox := s.outbox.dropReceiver } }

/-- The service forces the state to closed, with a transport that is left to be closed or none. -/
def leave (c : Client) (s : Session) (inbox : Option (List Item)) : Client :=
  { c with state := .closed, session := some { s with stage := .leaving inbox } }

/-- A description for people, of a client with these settings in this state. -/
def description (settings : Settings) (state : Lifecycle) : String :=
  "Client \x7b endpoint: " ++ Text.quoted settings.endpoint ++ ", state: " ++ state.title ++ " \x7d"

/-- The description of the client as it is now. -/
def describe (c : Client) : String := description c.settings c.state

end Client

end ChatLink
