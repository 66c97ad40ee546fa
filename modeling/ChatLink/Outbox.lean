import ChatLink.Envelope
import ChatLink.Error

/-!
# The outbox

A queue of envelopes between any number of senders and one receiver. Envelopes leave it in the
order in which they were accepted, each once. The receiver may be given up, after which nothing
is accepted any more; when all senders are given up, the receiver learns of it once the queue is
empty.
-/

namespace ChatLink

/-- The queue with its two sides. -/
structure Outbox where
  /-- The waiting envelopes, oldest first. -/
  queue : List Envelope
  /-- For each sender that was ever made, whether it is still held. -/
  senders : List Bool
  /-- The receiver is still held. -/
  hasReceiver : Bool
  deriving DecidableEq, Repr

namespace Outbox

/-- An empty queue with one sender, of index 0, and its receiver. -/
def initial : Outbox := ⟨[], [true], true⟩

/-- The sender of this index is still held. -/
def hasSender (o : Outbox) (i : Nat) : Bool := (o.senders[i]?).getD false

/-- Some sender is still held. -/
def hasSenders (o : Outbox) : Bool := o.senders.any id

/-- Accepts an envelope as the last one, as long as there is a receiver. -/
def enqueue (o : Outbox) (e : Envelope) : Except Error Outbox :=
  if o.hasReceiver then .ok { o with queue := o.queue ++ [e] } else .error .notConnected

/-- Makes one more sender; its index is the second component. -/
def addSender (o : Outbox) : Outbox × Nat :=
  ({ o with senders := o.senders ++ [true] }, o.senders.length)

/-- Gives a sender up. -/
def dropSender (o : Outbox) (i : Nat) : Outbox := { o with senders := o.senders.set i false }

/-- Gives the receiver up, and with it everything that is still queued. -/
def dropReceiver (o : Outbox) : Outbox := { o with queue := [], hasReceiver := false }

/-- Takes the oldest envelope, if there is one. -/
def dequeue (o : Outbox) : Option Envelope × Outbox :=
  match o.queue with
  | [] => (none, o)
  | e :: rest => (some e, { o with queue := rest })

/-- What a receiver that would wait for an envelope is told. -/
inductive Receipt where
  | item (e : Envelope)
  /-- Nothing is there yet. -/
  | pending
  /-- Nothing will ever come. -/
  | ended
  deriving DecidableEq, Repr

/-- Takes the oldest envelope, or says whether waiting for one makes sense. -/
def receive (o : Outbox) : Receipt × Outbox :=
  match o.dequeue with
  | (some e, o) => (.item e, o)
  | (none, o) => (if o.hasSenders then .pending else .ended, o)

theorem length_of_dequeue {o next : Outbox} {e : Envelope} (h : o.dequeue = (some e, next)) :
    o.queue.length = next.queue.length + 1 := by
  obtain ⟨queue, senders, hasReceiver⟩ := o
  cases queue <;> cases h
  rfl

theorem receive_eq_pending {o : Outbox} :
    o.receive.1 = .pending ↔ o.queue = [] ∧ o.hasSenders = true := by
  obtain ⟨queue, senders, hasReceiver⟩ := o
  cases queue with
  | nil => simp [receive, dequeue]
  | cons e queue => simp [receive, dequeue]

theorem queue_of_receive {o next : Outbox} {e : Envelope} (h : o.receive = (.item e, next)) :
    ∃ queue, o.queue = e :: queue ∧ next = { o with queue := queue } := by
  obtain ⟨queue, senders, hasReceiver⟩ := o
  cases queue with
  | nil =>
    simp only [receive, dequeue] at h
    split at h <;> cases h
  | cons e queue =>
    cases h
    exact ⟨_, rfl, rfl⟩

/-- Throws everything away that is queued, envelope by envelope, and says how much it was. -/
def drain (o : Outbox) : Nat × Outbox :=
  match h : o.dequeue with
  | (none, o) => (0, o)
  | (some _, next) =>
    have := length_of_dequeue h
    let (count, last) := next.drain
    (count + 1, last)
termination_by o.queue.length

theorem drain_eq (o : Outbox) : o.drain = (o.queue.length, { o with queue := [] }) := by
  fun_induction drain o with
  | case1 o next h =>
    obtain ⟨queue, senders, hasReceiver⟩ := o
    cases queue <;> cases h
    rfl
  | case2 o e next h _ count last hrest ih =>
    obtain ⟨queue, senders, hasReceiver⟩ := o
    cases queue <;> cases h
    rw [hrest] at ih
    cases ih
    rfl

/-! ## Use by several holders -/

/-- What the holders of the two sides can do. -/
inductive Step where
  | enqueue (sender : Nat) (e : Envelope)
  | addSender (sender : Nat)
  | dropSender (sender : Nat)
  | dropReceiver
  | dequeue
  | receive
  | drain
  deriving DecidableEq, Repr

/-- What they are answered. -/
inductive Reply where
  | accepted
  | refused (error : Error)
  /-- There is no such sender any more, or there never was. -/
  | noSender
  | noReceiver
  /-- The index of a new sender. -/
  | sender (index : Nat)
  /-- Whether there was something to give up. -/
  | dropped (was : Bool)
  | dequeued (e : Option Envelope)
  | received (receipt : Receipt)
  | drained (count : Nat)
  deriving DecidableEq, Repr

/-- A step on the sending side needs its sender, one on the receiving side the receiver. -/
def perform (o : Outbox) : Step → Outbox × Reply
  | .enqueue i e =>
    if o.hasSender i then
      match o.enqueue e with
      | .ok o => (o, .accepted)
      | .error error => (o, .refused error)
    else (o, .noSender)
  | .addSender i =>
    if o.hasSender i then
      let (o, index) := o.addSender
      (o, .sender index)
    else (o, .noSender)
  | .dropSender i => (o.dropSender i, .dropped (o.hasSender i))
  | .dropReceiver => (o.dropReceiver, .dropped o.hasReceiver)
  | .dequeue =>
    if o.hasReceiver then
      let (e, o) := o.dequeue
      (o, .dequeued e)
    else (o, .noReceiver)
  | .receive =>
    if o.hasReceiver then
      let (receipt, o) := o.receive
      (o, .received receipt)
    else (o, .noReceiver)
  | .drain =>
    if o.hasReceiver then
      let (count, o) := o.drain
      (o, .drained count)
    else (o, .noReceiver)

end Outbox

end ChatLink
