import ChatLink.Client.Script
import ChatLink.Proofs.Client.Turn

/-!
# What a call can do

Every call of the application, and everything that the server does, leaves a client as it is or
changes it in one way. `submit_cases`, `connect_cases`, `expire_cases` and `push_cases` say which,
and when. `close_of_session` and `reap_of_session` are what is left of a session once it was taken
down : nothing at all, and that wherever the service stood (`teardown_of_session`).
-/

namespace ChatLink

namespace Stage

/-- An item that is sent is put behind the others of an open transport. -/
theorem receive_cases {item : Item} {stage stage' : Stage}
    (h : stage.receive item = some stage') :
    (∃ inbox, stage = .greeting inbox ∧ stage' = .greeting (inbox ++ [item])) ∨
    (∃ inbox pending, stage = .serving inbox pending ∧
      stage' = .serving (inbox ++ [item]) pending) ∨
    (∃ inbox, stage = .leaving (some inbox) ∧ stage' = .leaving (some (inbox ++ [item]))) := by
  cases stage with
  | greeting inbox => exact .inl ⟨inbox, rfl, (Option.some.inj h).symm⟩
  | serving inbox pending => exact .inr (.inl ⟨inbox, pending, rfl, (Option.some.inj h).symm⟩)
  | leaving inbox =>
    cases inbox with
    | none => cases h
    | some inbox => exact .inr (.inr ⟨inbox, rfl, (Option.some.inj h).symm⟩)
  | held | parting _ _ | ended | panicked => cases h

/-- A service that broke down has no inbox. -/
theorem ne_panicked_of_receive {item : Item} {stage stage' : Stage}
    (h : stage.receive item = some stage') : stage ≠ .panicked ∧ stage' ≠ .panicked := by
  rcases receive_cases h with ⟨_, rfl, rfl⟩ | ⟨_, _, rfl, rfl⟩ | ⟨_, rfl, rfl⟩ <;>
    exact ⟨nofun, nofun⟩

end Stage

namespace Client

/-- An envelope is accepted as the last one of the outbox, or nothing happens. -/
theorem submit_cases (c : Client) (e : Envelope) :
    (∃ s, c.session = some s ∧ s.outbox.hasReceiver = true ∧
      ¬(c.state = .idle ∨ c.state = .closed) ∧
      c.submit e = (c.withSession (s.withQueue (s.outbox.queue ++ [e])), .ok)) ∨
    ((c.state = .idle ∨ c.state = .closed ∨ ∀ s ∈ c.session, s.outbox.hasReceiver = false) ∧
      c.submit e = (c, .refused .notConnected)) := by
  unfold submit
  split
  · next h => exact .inr ⟨h.imp_right .inl, rfl⟩
  · next h =>
    split
    · next hs =>
      refine .inr ⟨.inr (.inr fun s h => ?_), rfl⟩
      exact absurd (hs.symm.trans h) (Option.some_ne_none s).symm
    · next s hs =>
      unfold Outbox.enqueue
      by_cases hr : s.outbox.hasReceiver = true
      · rw [if_pos hr]
        exact .inl ⟨s, hs, hr, h, rfl⟩
      · rw [if_neg hr]
        have hr : ∀ s ∈ c.session, s.outbox.hasReceiver = false := by
          intro s' hs'
          obtain rfl := Option.some.inj (hs.symm.trans hs')
          simpa using hr
        exact .inr ⟨.inr (.inr hr), rfl⟩

/-! ## Sessions are taken down -/

/-- The client without its session. -/
def released (c : Client) : Client := { c with session := none, serviceThread := none }

/-- The client after its session was closed. -/
def down (c : Client) : Client := { c.released with state := .closed }

/-- What a service still logs when it is asked to stop. -/
def partingEntries (c : Client) : List Entry :=
  if c.stage?.any (·.inbox?.isSome) then [.close] else []

theorem partingEntries_of_session {c : Client} {s : Session} (hs : c.session = some s) :
    c.partingEntries = if s.stage.inbox?.isSome then [.close] else [] := by
  rw [partingEntries, stage?, hs]
  rfl

theorem partingEntries_of_none {c : Client} (hs : c.session = none) : c.partingEntries = [] := by
  rw [partingEntries, stage?, hs]
  rfl

theorem released_of_none {c : Client} (hs : c.session = none) (ht : c.serviceThread = none) :
    c.released = c := by
  rw [released, ← hs, ← ht]

theorem partingEntries_cases (c : Client) :
    c.partingEntries = [] ∨ c.partingEntries = [.close] := by
  unfold partingEntries
  split
  · exact .inr rfl
  · exact .inl rfl

theorem partingEntries_halt (c : Client) : c.halt.partingEntries = c.partingEntries := by
  rw [partingEntries, partingEntries, stage?, stage?, halt, Option.map_map]
  rfl

theorem not_onServiceThread_application (c : Client) : ¬c.OnServiceThread .application := by
  rw [OnServiceThread, Option.map_eq_some_iff]
  rintro ⟨thread, -, h⟩
  cases h

/-- Wherever a service stands, taking its session down comes to an end, and all that is left in the
outbox is thrown away. -/
theorem teardown_of_session {c : Client} {s : Session} (hs : c.session = some s) :
    c.teardown = ({ c with
        state := if s.stage.isLooping then .closed else c.state
        session := none },
      if s.stage = .panicked then 0 else s.outbox.queue.length, c.partingEntries) := by
  have hhalt : c.halt.session =
      some { s with stopping := true, outbox := s.outbox.dropSender 0 } := by
    rw [halt, hs, Option.map_some]
  have hlast : s.stage.last = .panicked ↔ s.stage = .panicked := by
    cases s.stage <;> simp [Stage.last]
  rw [teardown, settle_of_stopping hhalt rfl, partingEntries_of_session hs]
  simp only [discarded, hlast, Outbox.drain_eq, Outbox.dropSender]
  rfl

theorem close_of_none {c : Client} (hs : c.session = none) : c.close .application = (c, []) := by
  rw [close, if_neg c.not_onServiceThread_application, hs]

/-- A client that is closed has no session any more, and its transport, if it had one, is closed
too. -/
theorem close_of_session {c : Client} {s : Session} (hs : c.session = some s) :
    c.close .application = (c.down, c.partingEntries) := by
  have hteardown := teardown_of_session (c := { c with state := .closing }) hs
  unfold close
  rw [if_neg c.not_onServiceThread_application]
  split
  · next h => cases hs.symm.trans h
  · rw [hteardown]
    rfl

theorem session_close (c : Client) : (c.close .application).1.session = none := by
  rcases hs : c.session with _ | s
  · rw [close_of_none hs]
    exact hs
  · rw [close_of_session hs]
    rfl

theorem reap_of_none {c : Client} (hs : c.session = none) : c.reap = (c, []) := by
  rw [reap, hs]

theorem reap_of_session {c : Client} {s : Session} (hs : c.session = some s) :
    c.reap = (if s.stage.isLooping then c.down else c.released, c.partingEntries) := by
  unfold reap
  split
  · next h => cases hs.symm.trans h
  · rw [teardown_of_session hs]
    cases s.stage.isLooping <;> rfl

theorem session_reap (c : Client) : c.reap.1.session = none := by
  rcases hs : c.session with _ | s
  · rw [reap_of_none hs]
    exact hs
  · rw [reap_of_session hs]
    cases s.stage.isLooping <;> rfl

theorem begin_reap (c : Client) : c.reap.1.begin = c.begin := by
  rcases hs : c.session with _ | s
  · rw [reap_of_none hs]
  · rw [reap_of_session hs]
    cases s.stage.isLooping <;> rfl

theorem reader_reap (c : Client) : c.reap.1.reader = c.reader ∧ c.reap.1.settings = c.settings := by
  rcases hs : c.session with _ | s
  · rw [reap_of_none hs]
    exact ⟨rfl, rfl⟩
  · rw [reap_of_session hs]
    cases s.stage.isLooping <;> exact ⟨rfl, rfl⟩

/-! ## Calls -/

theorem refusal?_application (c : Client) :
    c.refusal? .application =
      match c.settings.check with
      | .error error => some error
      | .ok () => if c.state.isLive then some .alreadyConnected else none := by
  exact if_neg c.not_onServiceThread_application

theorem refusal?_eq_none {c : Client} :
    c.refusal? .application = none ↔ c.settings.check = .ok () ∧ c.state.isLive = false := by
  rw [refusal?_application]
  cases c.settings.check <;> simp

/-- An attempt begins where no session lives, and after the last service has ended; or nothing
happens; or the end of that service is waited for, but the endpoint cannot be used. -/
theorem connect_cases (c : Client) :
    (∃ endpoint, c.refusal? .application = none ∧
      Endpoint.parse c.reader c.settings.endpoint = .ok endpoint ∧
      c.connect .application = (c.begin, .ok, c.reap.2 ++ [.connect endpoint.text])) ∨
    (∃ error, c.refusal? .application = some error ∧
      c.connect .application = (c, .refused error, [])) ∨
    (∃ error, c.refusal? .application = none ∧
      Endpoint.parse c.reader c.settings.endpoint = .error error ∧
      c.connect .application = (c.reap.1, .refused error, c.reap.2)) := by
  unfold connect
  obtain ⟨hreader, hsettings⟩ := c.reader_reap
  split
  · next error hr => exact .inr (.inl ⟨error, hr, rfl⟩)
  · next hr =>
    dsimp only
    rw [hreader, hsettings, begin_reap]
    split
    · next error hp => exact .inr (.inr ⟨error, hr, hp, rfl⟩)
    · next endpoint hp => exact .inl ⟨endpoint, hr, hp, rfl⟩

/-- An attempt that waits is given up, or nothing happens. -/
theorem expire_cases (c : Client) :
    (∃ s, c.session = some s ∧ s.stage = .held ∧ c.settings.timer?.isSome ∧
      c.expire = c.leave s none) ∨ c.expire = c := by
  unfold expire
  split
  · next s ms hs ht =>
    split
    · next hst => exact .inl ⟨s, hs, hst, by rw [ht]; rfl, rfl⟩
    · exact .inr rfl
  · exact .inr rfl

/-- An item is the last one of the inbox of an open transport, or nothing happens. -/
theorem push_cases (c : Client) (item : Item) :
    (∃ s stage, c.session = some s ∧ s.stage.receive item = some stage ∧
      c.push item = (c.withSession { s with stage := stage }, true)) ∨
    ((∀ s ∈ c.session, s.stage.receive item = none) ∧ c.push item = (c, false)) := by
  unfold push
  split
  · next hs =>
    refine .inr ⟨fun s h => ?_, rfl⟩
    exact absurd (hs.symm.trans h) (Option.some_ne_none s).symm
  · next s hs =>
    split
    · next stage hst => exact .inl ⟨s, stage, hs, hst, rfl⟩
    · next hst =>
      refine .inr ⟨fun s' hs' => ?_, rfl⟩
      rwa [← Option.some.inj (hs.symm.trans hs')]

/-! ## Steps -/

theorem apply_connect (c : Client) :
    c.apply .connect = ((c.connect .application).1, .called (c.connect .application).2.1,
      (c.connect .application).2.2) := by
  rw [apply]

/-- A wish to connect that is granted begins an attempt. -/
theorem apply_connect_of_ok {c : Client} (h : (c.connect .application).2.1 = .ok) :
    ∃ entries, c.apply .connect = (c.begin, .called .ok, entries) := by
  rcases c.connect_cases with ⟨endpoint, -, -, heq⟩ | ⟨error, -, heq⟩ | ⟨error, -, -, heq⟩
  · exact ⟨_, by rw [apply_connect, heq]⟩
  · rw [heq] at h
    cases h
  · rw [heq] at h
    cases h

theorem apply_expire (c : Client) : c.apply .expire = (c.expire, .nothing, []) := by
  rw [apply]

theorem apply_submit (c : Client) (e : Envelope) :
    c.apply (.submit e) = ((c.submit e).1, .called (c.submit e).2, []) := by
  rw [apply]

theorem apply_submitAll (c : Client) (es : List Envelope) :
    c.apply (.submitAll es) = ((c.submitAll es).1, .calledAll (c.submitAll es).2, []) := by
  rw [apply]

theorem apply_close (c : Client) : c.apply .close =
    ((c.close .application).1, .called .ok, (c.close .application).2) := by
  rw [apply]

theorem apply_push (c : Client) (item : Item) :
    c.apply (.push item) = ((c.push item).1, .pushed (c.push item).2, []) := by
  rw [apply]

theorem apply_drop (c : Client) : c.apply .drop =
    ((c.close .application).1, .nothing, (c.close .application).2) := by
  rw [apply]

/-- A step is its call, and then the turns that settle the service. -/
theorem perform_eq (c : Client) (step : Step) :
    (c.perform step).2.reply = (c.apply step).2.1 ∧
      (c.perform step).2.log = (c.apply step).2.2 ++ (c.apply step).1.settle.2 ∧
      ∀ c' ∈ (c.perform step).1, c' = (c.apply step).1.settle.1 := by
  unfold perform
  generalize c.apply step = applied
  obtain ⟨c₁, reply, entries⟩ := applied
  dsimp only
  generalize c₁.settle = settled
  obtain ⟨c₂, more⟩ := settled
  split
  · exact ⟨rfl, rfl, fun c' h => absurd h (Option.not_mem_none c')⟩
  · exact ⟨rfl, rfl, fun c' h => (Option.some.inj h).symm⟩

/-- A report tells the state of the client that is left, if one is. -/
theorem state_perform (c : Client) (step : Step) :
    (c.perform step).2.state = (c.perform step).1.map (·.state) := by
  cases step <;> rfl

theorem advance_eq (c : Client) {step : Step} (h : step ≠ .drop) :
    (advance (some c) step).1 = some (c.apply step).1.settle.1 := by
  cases step with
  | drop => exact absurd rfl h
  | _ => rfl

/-- A step leaves a service that can do nothing more. -/
theorem turn_advance (client : Option Client) (step : Step) :
    ∀ c ∈ (advance client step).1, c.turn = none := by
  intro c' hc'
  rcases client with _ | c
  · cases hc'
  · rw [(c.perform_eq step).2.2 c' hc', turn_settle]

/-- A call after which the service has no turn to take is all of its step. -/
theorem perform_of_turn_eq_none {c c' : Client} {step : Step} {reply : Reply}
    {entries : List Entry} (happly : c.apply step = (c', reply, entries)) (ht : c'.turn = none)
    (hd : step ≠ .drop) : c.perform step = (some c', ⟨reply, some c'.state, entries⟩) := by
  unfold perform
  rw [happly]
  dsimp only
  rw [settle_of_turn_eq_none ht, List.append_nil]
  cases step with
  | drop => exact absurd rfl hd
  | _ => rfl

/-- A step that leaves nothing to do for the service leaves the client as its call does. -/
theorem advance_of_turn_eq_none {c c' : Client} {step : Step} {reply : Reply}
    {entries : List Entry} (happly : c.apply step = (c', reply, entries)) (ht : c'.turn = none)
    (hd : step ≠ .drop) : (advance (some c) step).1 = some c' := by
  rw [advance_eq c hd, happly, settle_of_turn_eq_none ht]

end Client

end ChatLink
