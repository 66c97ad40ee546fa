import ChatLink.Client
import ChatLink.Event.Frame

/-!
# The service of a connection

A service connects, writes the greeting, and then takes turns. In each turn it does the first thing
that is possible : stop if it was asked to, write the oldest envelope of the outbox, consume the
oldest item of the inbox. A frame that carries an event goes to the callback that is installed at
that moment; every other frame is passed over.

Whatever brings a service to its end, it first forces the state to closed, then closes its transport
if it has one, and waits for that no longer than `Service.closeGrace`; only then has it ended. These
are turns of their own, and calls can be made between them.

`Client.turn` is one turn, and `Client.settle` takes turns until none is possible : while the
attempt waits to be let in, while a write waits, while there is nothing to do, or when the service
is gone.
-/

namespace ChatLink

/-- The milliseconds that the closing of a transport may take. -/
def Service.closeGrace : Nat := 500

/-- Where a service stands a millisecond later that waits for its transport to be closed : it has
ended if that is done, or has failed, or was waited for long enough. -/
def Farewell.await : Farewell → Nat → Stage
  | done, _ => .ended
  | failed, _ => .ended
  | hangs, 0 => .ended
  | hangs, grace + 1 => .parting hangs grace

namespace Client

/-! ## Callbacks -/

/-- Does one action of the callback that handles an event. A callback runs inside the service, so
it can ask for a stop but not wait for it. A call that would wait for the service it is made by gets
stuck. -/
def act (c : Client) (e : Event) : Action → Client × Outcome
  | .join room => c.submit (.join room)
  | .leave room => c.submit (.leave room)
  | .send room text => c.submit (.message room text)
  | .echo => c.submit (.message e.room e.text)
  | .close => if c.OnServiceThread c.handler then (c.requestStop, .ok) else (c, .stuck)
  | .connect =>
    match c.refusal? c.handler with
    | some error => (c, .refused error)
    | none => (c, .stuck)
  | .state => (c, .state c.state)
  | .clearCallback => ({ c with callback := none }, .nothing)
  | .setCallback name actions => ({ c with callback := some ⟨name, actions⟩ }, .nothing)
  | .panic => (c.crash, .nothing)

/-- Does the actions of a callback in order; none follows a panic. -/
def actAll (c : Client) (e : Event) : List Action → Client × List Entry
  | [] => (c, [])
  | .panic :: _ => ((c.act e .panic).1, [.acted .panic (c.act e .panic).2])
  | action :: rest =>
    let (c, outcome) := c.act e action
    let (c, entries) := c.actAll e rest
    (c, .acted action outcome :: entries)

/-- A frame of the inbox is consumed. -/
def deliver (c : Client) (frame : List UInt8) : Client × List Entry :=
  match Frame.decode frame, c.callback with
  | .ok e, some callback =>
    let (c, entries) := c.actAll e callback.actions
    (c, .event callback.name e :: entries)
  | _, _ => (c, [])

/-! ## Writes -/

/-- The write of the greeting goes on, or waits. -/
def writeGreeting (c : Client) (s : Session) (inbox : List Item) : Option (Client × List Entry) :=
  let payload := (Envelope.hello c.settings.token).payload
  match c.peer.delivery with
  | .waits => none
  | .fails => some (c.leave s (some inbox), [.writeFailed payload])
  | .arrives =>
    some ({ c with state := (c.state.advance .active).1 }.withSession
      { s with stage := .serving inbox none }, [.write payload])

/-- The write of an envelope goes on, or waits. -/
def writePending (c : Client) (s : Session) (inbox : List Item) (e : Envelope) :
    Option (Client × List Entry) :=
  match c.peer.delivery with
  | .waits => none
  | .fails => some (c.leave s (some inbox), [.writeFailed e.payload])
  | .arrives => some (c.withSession { s with stage := .serving inbox none }, [.write e.payload])

/-! ## Turns -/

/-- The attempt was let in : it is refused, or the transport is open and the greeting begins. -/
def enter (c : Client) (s : Session) : Client × List Entry :=
  if c.peer.refuse then (c.leave s none, [.refused])
  else
    let c := { c with state := (c.state.advance .established).1 }
    match c.writeGreeting s [] with
    | some done => done
    | none =>
      (c.withSession { s with stage := .greeting [] },
        [.stalled (Envelope.hello c.settings.token).payload])

/-- The write of an envelope begins. -/
def beginWrite (c : Client) (s : Session) (inbox : List Item) (e : Envelope) :
    Client × List Entry :=
  match c.writePending s inbox e with
  | some done => done
  | none => (c.withSession { s with stage := .serving inbox (some e) }, [.stalled e.payload])

/-- An item of the inbox is consumed. -/
def consume (c : Client) (s : Session) (item : Item) (inbox : List Item) : Client × List Entry :=
  match item.frame? with
  | some frame => (c.withSession { s with stage := .serving inbox none }).deliver frame
  | none => (c.leave s (some inbox), [])

/-- The next thing to do for a service that serves, if there is one. An outbox that nobody can send
to any more brings it to its end. -/
def serve (c : Client) (s : Session) (inbox : List Item) : Option (Client × List Entry) :=
  match s.outbox.receive with
  | (.item e, outbox) => some (c.beginWrite { s with outbox := outbox } inbox e)
  | (.ended, _) => some (c.leave s (some inbox), [])
  | (.pending, _) =>
    match inbox with
    | item :: inbox => some (c.consume s item inbox)
    | [] => none

/-- One turn of a session's service, if one is possible. -/
def turnOf (c : Client) (s : Session) : Option (Client × List Entry) :=
  match s.stage with
  | .held =>
    if s.stopping then some (c.leave s none, [])
    else c.peer.letIn.map fun peer => { c with peer := peer }.enter s
  | .greeting inbox =>
    if s.stopping then some (c.leave s (some inbox), []) else c.writeGreeting s inbox
  | .serving inbox (some e) =>
    if s.stopping then some (c.leave s (some inbox), []) else c.writePending s inbox e
  | .serving inbox none =>
    if s.stopping then some (c.leave s (some inbox), []) else c.serve s inbox
  | .leaving none => some (c.withSession { s with stage := .ended }, [])
  | .leaving (some _) =>
    some (c.withSession { s with stage := .parting c.peer.farewell Service.closeGrace }, [.close])
  | .parting farewell grace => some (c.withSession { s with stage := farewell.await grace }, [])
  | .ended | .panicked => none

/-- One turn of the service, if one is possible. -/
def turn (c : Client) : Option (Client × List Entry) := c.session.bind c.turnOf

/-! ## Turns come to an end

Every turn brings the service to a later stage, or leaves fewer items in the inbox, or fewer
envelopes to write : a callback can fill the outbox, but only by consuming an item. Closing a
transport that hangs comes to an end because it is given no more than its grace. -/

/-- How far the service is from its end, how much is in its inbox, and how much is to be written. -/
def load (c : Client) : Nat × Nat × Nat :=
  match c.session with
  | none => (0, 0, 0)
  | some s =>
    match s.stage with
    | .held => (5, 0, 0)
    | .greeting _ => (4, 0, 0)
    | .serving inbox pending =>
      (3, inbox.length, 2 * s.outbox.queue.length + if pending.isSome then 1 else 0)
    | .leaving _ => (2, 0, 0)
    | .parting _ grace => (1, grace, 0)
    | .ended | .panicked => (0, 0, 0)

/-- The load is smaller : in its first part, or else in its second, or else in its third. -/
def Lighter : Nat × Nat × Nat → Nat × Nat × Nat → Prop :=
  Prod.Lex (· < ·) (Prod.Lex (· < ·) (· < ·))

theorem stage?_withSession (c : Client) (s : Session) :
    (c.withSession s).stage? = some s.stage := rfl

theorem stage?_submit (c : Client) (e : Envelope) : (c.submit e).1.stage? = c.stage? := by
  unfold submit
  split
  · rfl
  · split
    · rfl
    · next s hs => split <;> simp [stage?, withSession, hs]

theorem stage?_requestStop (c : Client) : c.requestStop.stage? = c.stage? := by
  unfold requestStop stage?
  cases c.session <;> rfl

theorem stage?_crash (c : Client) : c.crash.stage? = c.stage?.map fun _ => .panicked := by
  unfold crash stage?
  cases c.session <;> rfl

/-- An action leaves the service where it stands, unless it is a panic. -/
theorem stage?_act (c : Client) (e : Event) (action : Action) :
    (c.act e action).1.stage? = c.stage? ∨
      (c.act e action).1.stage? = c.stage?.map fun _ => .panicked := by
  cases action with
  | join room => exact .inl (c.stage?_submit _)
  | leave room => exact .inl (c.stage?_submit _)
  | send room text => exact .inl (c.stage?_submit _)
  | echo => exact .inl (c.stage?_submit _)
  | close =>
    simp only [act]
    split
    · exact .inl c.stage?_requestStop
    · exact .inl rfl
  | connect =>
    simp only [act]
    split <;> exact .inl rfl
  | panic => exact .inr c.stage?_crash
  | state | clearCallback | setCallback _ _ => exact .inl rfl

/-- The actions of a callback leave the service where it stands, unless one is a panic. -/
theorem stage?_actAll (c : Client) (e : Event) (actions : List Action) :
    (c.actAll e actions).1.stage? = c.stage? ∨
      (c.actAll e actions).1.stage? = c.stage?.map fun _ => .panicked := by
  induction actions generalizing c with
  | nil => exact .inl rfl
  | cons action rest ih =>
    unfold actAll
    split
    · next h => cases h
    · next h =>
      obtain ⟨rfl, rfl⟩ := List.cons.inj h
      exact stage?_act c e .panic
    · next h =>
      obtain ⟨rfl, rfl⟩ := List.cons.inj h
      rcases stage?_act c e action with h₁ | h₁ <;> rcases ih (c.act e action).1 with h₂ | h₂ <;>
        simp only [h₂, h₁, Option.map_map] <;> simp [Function.comp_def]

theorem stage?_deliver (c : Client) (frame : List UInt8) :
    (c.deliver frame).1.stage? = c.stage? ∨
      (c.deliver frame).1.stage? = c.stage?.map fun _ => .panicked := by
  unfold deliver
  split
  · exact stage?_actAll _ _ _
  · exact .inl rfl

theorem load_of_serving {c : Client} {inbox : List Item}
    (h : c.stage? = some (.serving inbox none)) : ∃ n, c.load = (3, inbox.length, n) := by
  unfold stage? at h
  obtain ⟨s, hs, hst⟩ := Option.map_eq_some_iff.1 h
  exact ⟨_, by simp only [load, hs, hst]; rfl⟩

theorem load_of_panicked {c : Client} (h : c.stage? = some .panicked) : c.load = (0, 0, 0) := by
  unfold stage? at h
  obtain ⟨s, hs, hst⟩ := Option.map_eq_some_iff.1 h
  simp only [load, hs, hst]

theorem lighter_fst {a b : Nat} {x y : Nat × Nat} (h : a < b) : Lighter (a, x) (b, y) :=
  .left _ _ h

theorem lighter_snd {a b b' : Nat} {x y : Nat} (h : b < b') : Lighter (a, b, x) (a, b', y) :=
  .right _ (.left _ _ h)

theorem lighter_trd {a b x y : Nat} (h : x < y) : Lighter (a, b, x) (a, b, y) :=
  .right _ (.right _ h)

theorem lighter_of_fst {x : Nat × Nat × Nat} {b : Nat} {y : Nat × Nat} (h : x.1 < b) :
    Lighter x (b, y) :=
  .left _ _ h

theorem load_writeGreeting {c c' : Client} {s : Session} {inbox : List Item} {es : List Entry}
    (h : c.writeGreeting s inbox = some (c', es)) : c'.load.1 ≤ 3 := by
  unfold writeGreeting at h
  split at h
  · cases h
  · cases h; exact Nat.le_succ 2
  · cases h; exact Nat.le_refl 3

theorem load_writePending {c c' : Client} {s : Session} {inbox : List Item} {e : Envelope}
    {es : List Entry} (h : c.writePending s inbox e = some (c', es)) :
    Lighter c'.load (3, inbox.length, 2 * s.outbox.queue.length + 1) := by
  unfold writePending at h
  split at h
  · cases h
  · cases h; exact lighter_fst (Nat.lt_succ_self 2)
  · cases h; exact lighter_trd (by simp)

theorem load_enter (c : Client) (s : Session) : (c.enter s).1.load.1 ≤ 4 := by
  unfold enter
  split
  · exact Nat.le_add_left 2 2
  · dsimp only
    split
    · next done h => exact Nat.le_succ_of_le (load_writeGreeting h)
    · exact Nat.le_refl 4

theorem load_beginWrite (c : Client) (s : Session) (inbox : List Item) (e : Envelope) :
    Lighter (c.beginWrite s inbox e).1.load
      (3, inbox.length, 2 * (s.outbox.queue.length + 1)) := by
  unfold beginWrite
  split
  · next done h =>
    unfold writePending at h
    split at h
    · cases h
    · cases h; exact lighter_fst (Nat.lt_succ_self 2)
    · cases h; exact lighter_trd (by simp)
  · exact lighter_trd (by simp only [Option.isSome_some, if_true]; omega)

theorem load_consume (c : Client) (s : Session) (item : Item) (inbox : List Item) (n : Nat) :
    Lighter (c.consume s item inbox).1.load (3, inbox.length + 1, n) := by
  unfold consume
  split
  · next frame _ =>
    rcases stage?_deliver (c.withSession { s with stage := .serving inbox none }) frame with h | h
    · obtain ⟨m, hm⟩ := load_of_serving (h.trans (stage?_withSession _ _))
      rw [hm]
      exact lighter_snd (Nat.lt_succ_self _)
    · rw [load_of_panicked h]
      exact lighter_fst (Nat.succ_pos 2)
  · exact lighter_fst (Nat.lt_succ_self 2)

theorem load_serve {c c' : Client} {s : Session} {inbox : List Item} {es : List Entry}
    (h : c.serve s inbox = some (c', es)) :
    Lighter c'.load (3, inbox.length, 2 * s.outbox.queue.length) := by
  unfold serve Outbox.receive at h
  rcases hq : s.outbox.queue with _ | ⟨e, queue⟩
  · simp only [Outbox.dequeue, hq] at h
    split at h
    · next hr => split at hr <;> cases hr
    · cases h
      exact lighter_fst (Nat.lt_succ_self 2)
    · split at h
      · rw [← show _ = c' from congrArg Prod.fst (Option.some.inj h)]
        exact load_consume _ _ _ _ _
      · cases h
  · simp only [Outbox.dequeue, hq] at h
    rw [← show _ = c' from congrArg Prod.fst (Option.some.inj h)]
    exact load_beginWrite _ _ _ _

theorem load_await (farewell : Farewell) (grace : Nat) (c : Client) (s : Session) :
    Lighter (c.withSession { s with stage := farewell.await grace }).load (1, grace, 0) := by
  cases farewell with
  | done | failed => exact lighter_fst Nat.zero_lt_one
  | hangs =>
    cases grace with
    | zero => exact lighter_fst Nat.zero_lt_one
    | succ grace => exact lighter_snd (Nat.lt_succ_self grace)

/-- Every turn makes the load lighter. -/
theorem load_turn {c c' : Client} {es : List Entry} (h : c.turn = some (c', es)) :
    Lighter c'.load c.load := by
  unfold turn at h
  obtain ⟨s, hs, h⟩ := Option.bind_eq_some_iff.1 h
  unfold turnOf at h
  split at h
  · next hst =>
    simp only [load, hs, hst]
    split at h
    · cases h; exact lighter_fst (by decide)
    · obtain ⟨peer, -, h⟩ := Option.map_eq_some_iff.1 h
      rw [← show _ = c' from congrArg Prod.fst h]
      exact lighter_of_fst (Nat.lt_succ_of_le (load_enter _ _))
  · next hst =>
    simp only [load, hs, hst]
    split at h
    · cases h; exact lighter_fst (by decide)
    · exact lighter_of_fst (Nat.lt_succ_of_le (load_writeGreeting h))
  · next hst =>
    simp only [load, hs, hst]
    split at h
    · cases h; exact lighter_fst (by decide)
    · exact load_writePending h
  · next hst =>
    simp only [load, hs, hst]
    split at h
    · cases h; exact lighter_fst (by decide)
    · exact load_serve h
  · next hst =>
    simp only [load, hs, hst]
    cases h
    exact lighter_fst (by decide)
  · next hst =>
    simp only [load, hs, hst]
    cases h
    exact lighter_fst (by decide)
  · next hst =>
    simp only [load, hs, hst]
    cases h
    exact load_await _ _ c s
  · cases h
  · cases h

/-- Takes turns until none is possible. -/
def settle (c : Client) : Client × List Entry :=
  match h : c.turn with
  | none => (c, [])
  | some (next, entries) =>
    have := load_turn h
    let (last, more) := next.settle
    (last, entries ++ more)
termination_by c.load
decreasing_by assumption

end ChatLink.Client
