import ChatLink.Client.Calls

/-!
# Scripts

A script is a list of steps : calls of the application, and things that the server does. After each
step the service takes turns until none is possible, and the step's report says what was answered,
which state the client is in, and what happened meanwhile. `Client.perform` is one step,
`Client.run` a script.
-/

namespace ChatLink

/-- One step of a script. -/
inductive Step where
  | connect
  /-- The time of the attempt runs out. -/
  | expire
  | submit (e : Envelope)
  /-- Several senders at once, whose envelopes come in this order. -/
  | submitAll (es : List Envelope)
  | close
  /-- The server sends an item. -/
  | push (item : Item)
  /-- The server has one more permit. -/
  | release
  /-- The server behaves differently from now on. -/
  | configure (switches : Peer.Switches)
  | setCallback (callback : Callback)
  | clearCallback
  | observe
  | describe
  | settings
  /-- The client is given up. -/
  | drop

/-- What a step is answered. -/
inductive Reply where
  | called (outcome : Outcome)
  | calledAll (outcomes : List Outcome)
  /-- Whether a transport was open for the item. -/
  | pushed (was : Bool)
  | description (text : String)
  | settings (s : Settings)
  | nothing
  /-- There is no client any more. -/
  | dropped
  deriving DecidableEq, Repr

/-- What a step shows. -/
structure Report where
  reply : Reply
  /-- The state after the step, as long as there is a client. -/
  state : Option Lifecycle
  log : List Entry

namespace Client

/-- The effect of a step before the service takes its turns. -/
def apply (c : Client) : Step → Client × Reply × List Entry
  | .connect =>
    let (c, outcome, entries) := c.connect .application
    (c, .called outcome, entries)
  | .expire => (c.expire, .nothing, [])
  | .submit e =>
    let (c, outcome) := c.submit e
    (c, .called outcome, [])
  | .submitAll es =>
    let (c, outcomes) := c.submitAll es
    (c, .calledAll outcomes, [])
  | .close =>
    let (c, entries) := c.close .application
    (c, .called .ok, entries)
  | .push item =>
    let (c, was) := c.push item
    (c, .pushed was, [])
  | .release => ({ c with peer := c.peer.release }, .nothing, [])
  | .configure switches => ({ c with peer := c.peer.configure switches }, .nothing, [])
  | .setCallback callback => ({ c with callback := some callback }, .nothing, [])
  | .clearCallback => ({ c with callback := none }, .nothing, [])
  | .observe => (c, .nothing, [])
  | .describe => (c, .description c.describe, [])
  | .settings => (c, .settings c.settings, [])
  | .drop =>
    let (c, entries) := c.close .application
    (c, .nothing, entries)

/-- One step, after which the service is settled again. A client that is given up is closed. -/
def perform (c : Client) (step : Step) : Option Client × Report :=
  let (c, reply, entries) := c.apply step
  let (c, more) := c.settle
  match step with
  | .drop => (none, ⟨reply, none, entries ++ more⟩)
  | _ => (some c, ⟨reply, some c.state, entries ++ more⟩)

/-- One step, of a client that may be given up already. -/
def advance : Option Client → Step → Option Client × Report
  | none, _ => (none, ⟨.dropped, none, []⟩)
  | some c, step => c.perform step

/-- The reports of a script. -/
def run (c : Option Client) : List Step → List Report
  | [] => []
  | step :: rest =>
    let (c, report) := advance c step
    report :: run c rest

end Client

end ChatLink
