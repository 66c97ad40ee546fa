import ChatLink.Client.Script

/-!
# Ledgers

Somebody who sees the calls of an application, their answers and the logs, and nothing of the
client, keeps a `Ledger` : for each connection an `Account` of the envelopes that were accepted
and of the payloads that were written. `Client.play` lets a client make moves, which are steps of
a script or, in any order, single calls and single turns of the service, and keeps the ledger.
-/

namespace ChatLink

/-- What was accepted during one session and written on its connection, oldest first. -/
structure Account where
  accepted : List Envelope
  written : List String

/-- The account of a session that just began. -/
def Account.empty : Account := ⟨[], []⟩

/-- The envelope that an action of a callback submits when it handles an event. -/
def Action.envelope? (action : Action) (e : Event) : Option Envelope :=
  match action with
  | join room => some (.join room)
  | leave room => some (.leave room)
  | send room text => some (.message room text)
  | echo => some (.message e.room e.text)
  | close | connect | state | clearCallback | setCallback _ _ | panic => none

/-- The accounts of all connections so far. -/
structure Ledger where
  /-- The accounts that are closed, oldest first. The first account that is closed is the one of
  the time before any attempt. -/
  past : List Account
  current : Account
  /-- What the callback was called for last. -/
  handling : Option Event

namespace Ledger

/-- The ledger before anything happened. -/
def initial : Ledger := ⟨[], .empty, none⟩

/-- All accounts, oldest first. -/
def accounts (l : Ledger) : List Account := l.past ++ [l.current]

/-- An envelope was submitted, and accepted if the outcome says so. -/
def record (l : Ledger) (e : Envelope) : Outcome → Ledger
  | .ok => { l with current := { l.current with accepted := l.current.accepted ++ [e] } }
  | .refused _ | .state _ | .nothing | .stuck => l

/-- Envelopes were submitted one after the other, with one outcome each. -/
def recordAll : Ledger → List Envelope → List Outcome → Ledger
  | l, e :: es, outcome :: outcomes => (l.record e outcome).recordAll es outcomes
  | l, _, _ => l

/-- One entry of a log is read. -/
def note (l : Ledger) : Entry → Ledger
  | .connect _ => ⟨l.accounts, .empty, none⟩
  | .write payload =>
    { l with current := { l.current with written := l.current.written ++ [payload] } }
  | .event _ e => { l with handling := some e }
  | .acted action outcome =>
    match l.handling.bind action.envelope? with
    | some e => l.record e outcome
    | none => l
  | .refused | .stalled _ | .writeFailed _ | .close => l

@[simp]
theorem recordAll_nil (l : Ledger) (outcomes : List Outcome) : l.recordAll [] outcomes = l := rfl

@[simp]
theorem recordAll_nil_right (l : Ledger) (es : List Envelope) : l.recordAll es [] = l := by
  cases es <;> rfl

@[simp]
theorem recordAll_cons (l : Ledger) (e : Envelope) (es : List Envelope) (outcome : Outcome)
    (outcomes : List Outcome) :
    l.recordAll (e :: es) (outcome :: outcomes) = (l.record e outcome).recordAll es outcomes := rfl

theorem note_acted {l : Ledger} {e : Event} (handling : l.handling = some e) (action : Action)
    (outcome : Outcome) :
    l.note (.acted action outcome) =
      match action.envelope? e with
      | some envelope => l.record envelope outcome
      | none => l := by
  rw [note, handling, Option.bind_some]

@[simp]
theorem handling_record (l : Ledger) (e : Envelope) (outcome : Outcome) :
    (l.record e outcome).handling = l.handling := by
  cases outcome <;> rfl

theorem handling_acted (l : Ledger) (action : Action) (outcome : Outcome) :
    (l.note (.acted action outcome)).handling = l.handling := by
  rw [note]
  rcases l.handling.bind action.envelope? with _ | e
  · rfl
  · exact l.handling_record e outcome

end Ledger

/-- The envelopes that a step submits. -/
@[simp]
def Step.offered : Step → List Envelope
  | submit e => [e]
  | submitAll es => es
  | connect | expire | close | push _ | release | configure _ | setCallback _ | clearCallback
  | observe | describe | settings | drop => []

/-- The outcomes that a reply tells. -/
@[simp]
def Reply.outcomes : Reply → List Outcome
  | called outcome => [outcome]
  | calledAll outcomes => outcomes
  | pushed _ | description _ | settings _ | nothing | dropped => []

/-- The report on envelopes that were offered is read : first the answers, and then the log. -/
def Ledger.observe (l : Ledger) (offered : List Envelope) (r : Report) : Ledger :=
  r.log.foldl note (l.recordAll offered r.reply.outcomes)

/-- What can happen next to a client. -/
inductive Move where
  /-- A step of a script, with all the turns that settle the service. -/
  | step (s : Step)
  /-- The effect of a step alone. The service may have turns left to take, before and after it. -/
  | call (s : Step)
  /-- One turn of the service, if one is possible. -/
  | turn

/-- The envelopes that a move submits. -/
def Move.offered : Move → List Envelope
  | step s | call s => s.offered
  | turn => []

namespace Client

/-- One turn of the service with its report. -/
def takeTurn (c : Client) : Client × Report :=
  match c.turn with
  | some (next, entries) => (next, ⟨.nothing, some next.state, entries⟩)
  | none => (c, ⟨.nothing, some c.state, []⟩)

/-- One move, of a client that may be given up already. -/
def move : Option Client → Move → Option Client × Report
  | c, .step s => advance c s
  | none, .call _ | none, .turn => (none, ⟨.dropped, none, []⟩)
  | some c, .call s =>
    let (c, reply, entries) := c.apply s
    (some c, ⟨reply, some c.state, entries⟩)
  | some c, .turn =>
    let (c, report) := c.takeTurn
    (some c, report)

/-- A client makes a move, and the ledger is kept. -/
def observed (p : Option Client × Ledger) (m : Move) : Option Client × Ledger :=
  ((move p.1 m).1, p.2.observe m.offered (move p.1 m).2)

/-- The moves of a client that was never connected, and the ledger of them. -/
def play (reader : Address.Reader) (settings : Settings) (moves : List Move) :
    Option Client × Ledger :=
  moves.foldl observed (some (.new reader settings), .initial)

end Client

end ChatLink
