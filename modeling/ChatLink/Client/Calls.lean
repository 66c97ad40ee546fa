import ChatLink.Client.Service

/-!
# Calls

What an application can ask of a client between the turns of its service, and what happens around
it : the time of an attempt runs out, or the server sends an item. A call takes effect at once;
what the service does about it afterwards is left to `Client.settle`. Only a call that takes a
session down waits until its service has ended : `Client.close`, and `Client.connect` where a
service ended by itself or is about to.
-/

namespace ChatLink.Client

/-! ## Sessions are taken down -/

/-- Asks the service to stop, and gives up the sender of the outbox. -/
def halt (c : Client) : Client :=
  { c with
    session := c.session.map fun s =>
      { s with stopping := true, outbox := s.outbox.dropSender 0 } }

/-- How many envelopes are thrown away that were never sent. A service that broke down has left
none. -/
def discarded (c : Client) : Nat :=
  match c.session with
  | none => 0
  | some s => if s.stage = .panicked then 0 else s.outbox.drain.1

/-- Takes the session down : asks the service to stop, waits for its end, and throws away what it
never sent. How much that was is the second component. -/
def teardown (c : Client) : Client × Nat × List Entry :=
  let (c, entries) := c.halt.settle
  ({ c with session := none }, c.discarded, entries)

/-- Waits for a service that has ended by itself, or is about to. -/
def reap (c : Client) : Client × List Entry :=
  match c.session with
  | none => (c, [])
  | some _ =>
    let (c, _, entries) := c.teardown
    ({ c with serviceThread := none }, entries)

/-- Takes the session down, if there is one. The service itself can only ask for that. -/
def close (c : Client) (origin : Origin) : Client × List Entry :=
  if c.OnServiceThread origin then (c.requestStop, [])
  else
    match c.session with
    | none => (c, [])
    | some _ =>
      let (c, _, entries) := { c with state := .closing }.teardown
      ({ c with serviceThread := none, state := .closed }, entries)

/-! ## Attempts to connect -/

/-- An attempt begins, on a thread of its own. -/
def begin (c : Client) : Client :=
  { c with
    state := .connecting
    session := some (.initial c.threads)
    serviceThread := some c.threads
    threads := c.threads + 1 }

/-- Begins an attempt to connect, after the end of an old service was waited for. -/
def connect (c : Client) (origin : Origin) : Client × Outcome × List Entry :=
  match c.refusal? origin with
  | some error => (c, .refused error, [])
  | none =>
    let (c, entries) := c.reap
    match Endpoint.parse c.reader c.settings.endpoint with
    | .error error => (c, .refused error, entries)
    | .ok endpoint => (c.begin, .ok, entries ++ [.connect endpoint.text])

/-- The time of the attempt has run out, if there is a limit to it and the attempt still waits. -/
def expire (c : Client) : Client :=
  match c.session, c.settings.timer? with
  | some s, some _ => if s.stage = .held then c.leave s none else c
  | _, _ => c

/-! ## Envelopes and items -/

/-- Several envelopes are submitted one after the other, by whichever senders. -/
def submitAll (c : Client) : List Envelope → Client × List Outcome
  | [] => (c, [])
  | e :: rest =>
    let (c, outcome) := c.submit e
    let (c, outcomes) := c.submitAll rest
    (c, outcome :: outcomes)

/-- The server sends an item, if a transport is open to it. -/
def push (c : Client) (item : Item) : Client × Bool :=
  match c.session with
  | none => (c, false)
  | some s =>
    match s.stage.receive item with
    | some stage => (c.withSession { s with stage := stage }, true)
    | none => (c, false)

end ChatLink.Client
