import ChatLink.Client.Calls

/-!
# What a turn can do

`Turns` lists everything that one turn of a service can do, with the guards of each case, and
`turns_of_turn` says that `Client.turn` does nothing else. What follows about turns is read off
this list. `settle_invariant` and `actAll_invariant` carry what single turns and single actions
preserve to runs of them, for an observer who reads the log as it grows. `settle_of_stopping` is
what becomes of a service that was asked to stop, wherever it stands.
-/

namespace ChatLink

namespace Stage

/-- The inbox of the transport of a service that has not left its loop. -/
def talk? : Stage → Option (List Item)
  | greeting inbox => some inbox
  | serving inbox _ => some inbox
  | held | leaving _ | parting _ _ | ended | panicked => none

/-- The service has not forced the state to closed. -/
def isLooping : Stage → Bool
  | held | greeting _ | serving _ _ => true
  | leaving _ | parting _ _ | ended | panicked => false

/-- There is a service. -/
def isRunning : Stage → Bool
  | held | greeting _ | serving _ _ | leaving _ | parting _ _ => true
  | ended | panicked => false

/-- Where a service comes to that is asked to stop. -/
def last : Stage → Stage
  | panicked => .panicked
  | held | greeting _ | serving _ _ | leaving _ | parting _ _ | ended => .ended

theorem isRunning_of_inbox? {stage : Stage} (h : stage.inbox?.isSome = true) :
    stage.isRunning = true := by
  cases stage <;> first | rfl | cases h

end Stage

/-- The session with another queue in its outbox. -/
def Session.withQueue (s : Session) (queue : List Envelope) : Session :=
  { s with outbox := { s.outbox with queue := queue } }

namespace Client

/-- The payload of the greeting that opens a session of this client. -/
def greeting (c : Client) : String := (Envelope.hello c.settings.token).payload

/-! ## Writes -/

/-- The write of the greeting is over. -/
inductive Greets (c : Client) (s : Session) (inbox : List Item) : Client → List Entry → Prop
  | fails (h : c.peer.delivery = .fails) :
    Greets c s inbox (c.leave s (some inbox)) [.writeFailed c.greeting]
  | arrives (h : c.peer.delivery = .arrives) :
    Greets c s inbox ({ c with state := (c.state.advance .active).1 }.withSession
      { s with stage := .serving inbox none }) [.write c.greeting]

/-- The write of an envelope is over. -/
inductive Writes (c : Client) (s : Session) (inbox : List Item) (e : Envelope) :
    Client → List Entry → Prop
  | fails (h : c.peer.delivery = .fails) :
    Writes c s inbox e (c.leave s (some inbox)) [.writeFailed e.payload]
  | arrives (h : c.peer.delivery = .arrives) :
    Writes c s inbox e (c.withSession { s with stage := .serving inbox none }) [.write e.payload]

theorem greets_of_writeGreeting {c c' : Client} {s : Session} {inbox : List Item}
    {es : List Entry} (h : c.writeGreeting s inbox = some (c', es)) :
    Greets c s inbox c' es := by
  unfold writeGreeting at h
  split at h
  · cases h
  · next hd => cases h; exact .fails hd
  · next hd => cases h; exact .arrives hd

theorem writes_of_writePending {c c' : Client} {s : Session} {inbox : List Item} {e : Envelope}
    {es : List Entry} (h : c.writePending s inbox e = some (c', es)) :
    Writes c s inbox e c' es := by
  unfold writePending at h
  split at h
  · cases h
  · next hd => cases h; exact .fails hd
  · next hd => cases h; exact .arrives hd

theorem delivery_of_writeGreeting {c : Client} {s : Session} {inbox : List Item}
    (h : c.writeGreeting s inbox = none) : c.peer.delivery = .waits := by
  unfold writeGreeting at h
  split at h
  · assumption
  · cases h
  · cases h

theorem delivery_of_writePending {c : Client} {s : Session} {inbox : List Item} {e : Envelope}
    (h : c.writePending s inbox e = none) : c.peer.delivery = .waits := by
  unfold writePending at h
  split at h
  · assumption
  · cases h
  · cases h

/-! ## Turns -/

/-- The client whose attempt was let in, before its greeting is written. -/
def entered (c : Client) (peer : Peer) : Client :=
  { c with peer := peer, state := (c.state.advance .established).1 }

/-- Everything that one turn of a session's service can do. -/
inductive Turns (c : Client) (s : Session) : Client → List Entry → Prop
  /-- The attempt is given up. -/
  | givesUp (hst : s.stage = .held) (stop : s.stopping = true) : Turns c s (c.leave s none) []
  | quits {inbox : List Item} (hst : s.stage.talk? = some inbox) (stop : s.stopping = true) :
    Turns c s (c.leave s (some inbox)) []
  | refused {peer : Peer} (hst : s.stage = .held) (stop : s.stopping = false)
      (hp : c.peer.letIn = some peer) (hr : peer.refuse = true) :
    Turns c s ({ c with peer := peer }.leave s none) [.refused]
  | greetingWaits {peer : Peer} (hst : s.stage = .held) (stop : s.stopping = false)
      (hp : c.peer.letIn = some peer) (hr : peer.refuse = false) (hd : peer.delivery = .waits) :
    Turns c s ((c.entered peer).withSession { s with stage := .greeting [] })
      [.stalled c.greeting]
  | enters {peer : Peer} {c' : Client} {es : List Entry} (hst : s.stage = .held)
      (stop : s.stopping = false) (hp : c.peer.letIn = some peer) (hr : peer.refuse = false)
      (hg : Greets (c.entered peer) s [] c' es) : Turns c s c' es
  | greets {inbox : List Item} {c' : Client} {es : List Entry} (hst : s.stage = .greeting inbox)
      (stop : s.stopping = false) (hg : Greets c s inbox c' es) : Turns c s c' es
  | writeWaits {inbox : List Item} {e : Envelope} {queue : List Envelope}
      (hst : s.stage = .serving inbox none) (stop : s.stopping = false)
      (hq : s.outbox.queue = e :: queue) (hd : c.peer.delivery = .waits) :
    Turns c s (c.withSession { s.withQueue queue with stage := .serving inbox (some e) })
      [.stalled e.payload]
  | writesNext {inbox : List Item} {e : Envelope} {queue : List Envelope} {c' : Client}
      {es : List Entry} (hst : s.stage = .serving inbox none) (stop : s.stopping = false)
      (hq : s.outbox.queue = e :: queue) (hw : Writes c (s.withQueue queue) inbox e c' es) :
    Turns c s c' es
  | writesPending {inbox : List Item} {e : Envelope} {c' : Client} {es : List Entry}
      (hst : s.stage = .serving inbox (some e)) (stop : s.stopping = false)
      (hw : Writes c s inbox e c' es) : Turns c s c' es
  /-- Nobody can send anything any more. -/
  | deserted {inbox : List Item} (hst : s.stage = .serving inbox none) (stop : s.stopping = false)
      (hq : s.outbox.receive.1 = .ended) : Turns c s (c.leave s (some inbox)) []
  /-- The inbox says that nothing more will come. -/
  | ends {item : Item} {inbox : List Item} (hst : s.stage = .serving (item :: inbox) none)
      (stop : s.stopping = false) (hq : s.outbox.receive.1 = .pending)
      (hi : item.frame? = none) : Turns c s (c.leave s (some inbox)) []
  | consumes {item : Item} {inbox : List Item} {frame : List UInt8}
      (hst : s.stage = .serving (item :: inbox) none) (stop : s.stopping = false)
      (hq : s.outbox.receive.1 = .pending) (hi : item.frame? = some frame) :
    Turns c s ((c.withSession { s with stage := .serving inbox none }).deliver frame).1
      ((c.withSession { s with stage := .serving inbox none }).deliver frame).2
  | closes {inbox : List Item} (hst : s.stage = .leaving (some inbox)) :
    Turns c s
      (c.withSession { s with stage := .parting c.peer.farewell Service.closeGrace }) [.close]
  /-- The closing of the transport is over, or waited for. -/
  | awaits {farewell : Farewell} {grace : Nat} (hst : s.stage = .parting farewell grace) :
    Turns c s (c.withSession { s with stage := farewell.await grace }) []
  /-- There was no transport. -/
  | returns (hst : s.stage = .leaving none) :
    Turns c s (c.withSession { s with stage := .ended }) []

theorem turns_of_enter {c c' : Client} {s : Session} {peer : Peer} {es : List Entry}
    (hst : s.stage = .held) (stop : s.stopping = false) (hp : c.peer.letIn = some peer)
    (h : { c with peer := peer }.enter s = (c', es)) : Turns c s c' es := by
  unfold enter at h
  split at h
  · next hr => cases h; exact .refused hst stop hp hr
  · next hr =>
    have hr : peer.refuse = false := by simpa using hr
    dsimp only at h
    split at h
    · next hw => exact .enters hst stop hp hr (greets_of_writeGreeting (h ▸ hw))
    · next hw => cases h; exact .greetingWaits hst stop hp hr (delivery_of_writeGreeting hw)

theorem turns_of_beginWrite {c c' : Client} {s : Session} {inbox : List Item} {e : Envelope}
    {queue : List Envelope} {es : List Entry} (hst : s.stage = .serving inbox none)
    (stop : s.stopping = false) (hq : s.outbox.queue = e :: queue)
    (h : c.beginWrite (s.withQueue queue) inbox e = (c', es)) : Turns c s c' es := by
  unfold beginWrite at h
  split at h
  · next hw => exact .writesNext hst stop hq (writes_of_writePending (h ▸ hw))
  · next hw => cases h; exact .writeWaits hst stop hq (delivery_of_writePending hw)

theorem turns_of_consume {c c' : Client} {s : Session} {item : Item} {inbox : List Item}
    {es : List Entry} (hst : s.stage = .serving (item :: inbox) none) (stop : s.stopping = false)
    (hq : s.outbox.receive.1 = .pending) (h : c.consume s item inbox = (c', es)) :
    Turns c s c' es := by
  unfold consume at h
  split at h
  · next hi =>
    obtain ⟨rfl, rfl⟩ := Prod.mk.inj h
    exact .consumes hst stop hq hi
  · next hi => cases h; exact .ends hst stop hq hi

theorem turns_of_serve {c c' : Client} {s : Session} {inbox : List Item} {es : List Entry}
    (hst : s.stage = .serving inbox none) (stop : s.stopping = false)
    (h : c.serve s inbox = some (c', es)) : Turns c s c' es := by
  unfold serve at h
  split at h
  · next e outbox hr =>
    obtain ⟨queue, hq, rfl⟩ := Outbox.queue_of_receive hr
    exact turns_of_beginWrite hst stop hq (Option.some.inj h)
  · next hr => cases h; exact .deserted hst stop (congrArg Prod.fst hr)
  · next hr =>
    split at h
    · exact turns_of_consume hst stop (congrArg Prod.fst hr) (Option.some.inj h)
    · cases h

theorem turns_of_turnOf {c c' : Client} {s : Session} {es : List Entry}
    (h : c.turnOf s = some (c', es)) : Turns c s c' es := by
  unfold turnOf at h
  split at h
  · next hst =>
    split at h
    · next stop => cases h; exact .givesUp hst stop
    · next stop =>
      obtain ⟨peer, hp, h⟩ := Option.map_eq_some_iff.1 h
      exact turns_of_enter hst (by simpa using stop) hp h
  · next hst =>
    split at h
    · next stop => cases h; exact .quits (congrArg Stage.talk? hst) stop
    · next stop => exact .greets hst (by simpa using stop) (greets_of_writeGreeting h)
  · next hst =>
    split at h
    · next stop => cases h; exact .quits (congrArg Stage.talk? hst) stop
    · next stop => exact .writesPending hst (by simpa using stop) (writes_of_writePending h)
  · next hst =>
    split at h
    · next stop => cases h; exact .quits (congrArg Stage.talk? hst) stop
    · next stop => exact turns_of_serve hst (by simpa using stop) h
  · next hst => cases h; exact .returns hst
  · next hst => cases h; exact .closes hst
  · next hst => cases h; exact .awaits hst
  · cases h
  · cases h

/-- A turn is one of those that `Turns` lists. -/
theorem turns_of_turn {c c' : Client} {es : List Entry} (h : c.turn = some (c', es)) :
    ∃ s, c.session = some s ∧ Turns c s c' es := by
  obtain ⟨s, hs, h⟩ := Option.bind_eq_some_iff.1 h
  exact ⟨s, hs, turns_of_turnOf h⟩

/-- Actions are done only in a turn that delivers a frame. -/
theorem Turns.deliver_of_acted {c c' : Client} {s : Session} {es : List Entry} {action : Action}
    {outcome : Outcome} (h : Turns c s c' es) (hmem : .acted action outcome ∈ es) :
    ∃ item inbox frame, s.stage = .serving (item :: inbox) none ∧ s.stopping = false ∧
      s.outbox.receive.1 = .pending ∧
        (c.withSession { s with stage := .serving inbox none }).deliver frame = (c', es) := by
  cases h with
  | enters _ _ _ _ hg => cases hg <;> simp at hmem
  | greets _ _ hg => cases hg <;> simp at hmem
  | writesNext _ _ _ hw => cases hw <;> simp at hmem
  | writesPending _ _ hw => cases hw <;> simp at hmem
  | consumes hst stop hq _ => exact ⟨_, _, _, hst, stop, hq, rfl⟩
  | _ => simp at hmem

theorem isSome_session {c : Client} : c.session.isSome = c.stage?.isSome := by
  rw [stage?, Option.isSome_map]

theorem turn_of_session {c : Client} {s : Session} (hs : c.session = some s) :
    c.turn = c.turnOf s := by
  rw [turn, hs, Option.bind_some]

theorem turn_of_none {c : Client} (hs : c.session = none) : c.turn = none := by
  rw [turn, hs, Option.bind_none]

/-- The session is there after a turn as it was before. -/
theorem exists_session_of_turn {c c' : Client} {es : List Entry} (h : c.turn = some (c', es)) :
    ∃ s, c'.session = some s := by
  obtain ⟨s, hs, hturns⟩ := turns_of_turn h
  cases hturns with
  | enters _ _ _ _ hg => cases hg <;> exact ⟨_, rfl⟩
  | greets _ _ hg => cases hg <;> exact ⟨_, rfl⟩
  | writesNext _ _ _ hw => cases hw <;> exact ⟨_, rfl⟩
  | writesPending _ _ hw => cases hw <;> exact ⟨_, rfl⟩
  | @consumes item inbox frame _ _ _ _ =>
    rw [← Option.isSome_iff_exists, isSome_session]
    rcases stage?_deliver (c.withSession { s with stage := .serving inbox none }) frame with
      hstage | hstage <;> rw [hstage] <;> rfl
  | _ => exact ⟨_, rfl⟩

/-- A service that serves and can do nothing more has written everything. -/
theorem queue_of_turn_eq_none {c : Client} {s : Session} {inbox : List Item}
    (hs : c.session = some s) (hst : s.stage = .serving inbox none) (h : c.turn = none) :
    s.outbox.queue = [] := by
  rw [turn_of_session hs, turnOf, hst] at h
  dsimp only at h
  split at h
  · cases h
  · unfold serve at h
    split at h
    · cases h
    · cases h
    · next hr => exact (Outbox.receive_eq_pending.1 (congrArg Prod.fst hr)).1

/-! ## Runs of turns -/

theorem settle_of_turn_eq_none {c : Client} (h : c.turn = none) : c.settle = (c, []) := by
  rw [settle]
  split
  · rfl
  · next h' => rw [h] at h'; cases h'

theorem settle_of_turn {c c' : Client} {es : List Entry} (h : c.turn = some (c', es)) :
    c.settle = (c'.settle.1, es ++ c'.settle.2) := by
  rw [settle]
  split
  · next h' => rw [h] at h'; cases h'
  · next h' => rw [h] at h'; cases h'; rfl

/-- A settled service can do nothing more. -/
@[simp]
theorem turn_settle (c : Client) : c.settle.1.turn = none := by
  fun_induction settle c with
  | case1 c h => exact h
  | case2 c next entries h _ last more hs ih => simpa only [hs] using ih

/-- The service has ended or broke down, and takes no turn. -/
theorem turn_of_done {c : Client} {s : Session} (hs : c.session = some s)
    (hst : s.stage.isRunning = false) : c.turn = none := by
  rw [turn_of_session hs, turnOf]
  cases h : s.stage <;> rw [h] at hst <;> first | rfl | cases hst

/-- However a transport takes its closing, it is not waited for any longer than the grace. -/
theorem settle_of_parting : ∀ {farewell : Farewell} {grace : Nat} {c : Client} {s : Session},
    c.session = some s → s.stage = .parting farewell grace →
      c.settle = (c.withSession { s with stage := .ended }, [])
  | farewell, grace, c, s, hs, hst => by
    have ht : c.turn = some (c.withSession { s with stage := farewell.await grace }, []) := by
      rw [turn_of_session hs, turnOf, hst]
    rw [settle_of_turn ht]
    have hended : farewell.await grace = .ended →
        ((c.withSession { s with stage := farewell.await grace }).settle.1,
          [] ++ (c.withSession { s with stage := farewell.await grace }).settle.2) =
        (c.withSession { s with stage := .ended }, []) := by
      intro h
      rw [h, settle_of_turn_eq_none rfl]
      rfl
    cases farewell with
    | done | failed => exact hended rfl
    | hangs =>
      cases grace with
      | zero => exact hended rfl
      | succ grace =>
        rw [@settle_of_parting .hangs grace _ _ rfl rfl]
        rfl

/-- A service that has forced the state to closed closes its transport, if it has one, and ends. -/
theorem settle_of_leaving {c : Client} {s : Session} {inbox : Option (List Item)}
    (hs : c.session = some s) (hst : s.stage = .leaving inbox) :
    c.settle =
      (c.withSession { s with stage := .ended }, if inbox.isSome then [.close] else []) := by
  cases inbox with
  | none =>
    have ht : c.turn = some (c.withSession { s with stage := .ended }, []) := by
      rw [turn_of_session hs, turnOf, hst]
    rw [settle_of_turn ht, settle_of_turn_eq_none rfl]
    rfl
  | some inbox =>
    have ht : c.turn = some (c.withSession
        { s with stage := .parting c.peer.farewell Service.closeGrace }, [.close]) := by
      rw [turn_of_session hs, turnOf, hst]
    rw [settle_of_turn ht, settle_of_parting rfl rfl]
    rfl

/-- A service that was asked to stop ends, and closes its transport if it has one. -/
theorem settle_of_stopping {c : Client} {s : Session} (hs : c.session = some s)
    (stop : s.stopping = true) :
    c.settle = ({ c with
        state := if s.stage.isLooping then .closed else c.state
        session := some { s with stage := s.stage.last } },
      if s.stage.inbox?.isSome then [.close] else []) := by
  have hloop : ∀ {inbox : Option (List Item)}, s.stage.isLooping = true →
      s.stage.last = .ended → inbox = s.stage.inbox? → c.turn = some (c.leave s inbox, []) →
      c.settle = ({ c with
          state := if s.stage.isLooping then .closed else c.state
          session := some { s with stage := s.stage.last } },
        if s.stage.inbox?.isSome then [.close] else []) := by
    rintro inbox hlooping hlast rfl ht
    rw [settle_of_turn ht, settle_of_leaving rfl rfl, if_pos hlooping, hlast]
    rfl
  have hdone : s.stage.isRunning = false → s.stage.last = s.stage → s.stage.isLooping = false →
      s.stage.inbox? = none →
      c.settle = ({ c with
          state := if s.stage.isLooping then .closed else c.state
          session := some { s with stage := s.stage.last } },
        if s.stage.inbox?.isSome then [.close] else []) := by
    intro hrunning hlast hlooping hinbox
    rw [settle_of_turn_eq_none (turn_of_done hs hrunning), hlast, hlooping, hinbox, ← hs]
    rfl
  have ht := turn_of_session hs
  rw [turnOf] at ht
  cases hst : s.stage with
  | held =>
    rw [hst] at ht hloop
    exact hloop rfl rfl rfl (ht.trans (if_pos stop))
  | greeting inbox =>
    rw [hst] at ht hloop
    exact hloop rfl rfl rfl (ht.trans (if_pos stop))
  | serving inbox pending =>
    rw [hst] at ht hloop
    refine hloop rfl rfl rfl (ht.trans ?_)
    cases pending <;> exact if_pos stop
  | leaving inbox => exact settle_of_leaving hs hst
  | parting farewell grace => exact settle_of_parting hs hst
  | ended =>
    rw [hst] at hdone
    exact hdone rfl rfl rfl rfl
  | panicked =>
    rw [hst] at hdone
    exact hdone rfl rfl rfl rfl

variable {σ : Type} (note : σ → Entry → σ) (P : Client → σ → Prop)

/-- What every turn preserves, the turns that settle a service preserve. -/
theorem settle_invariant
    (turn : ∀ {c c' : Client} {es : List Entry} {o : σ}, P c o → c.turn = some (c', es) →
      P c' (es.foldl note o)) {c : Client} {o : σ} (h : P c o) :
    P c.settle.1 (c.settle.2.foldl note o) := by
  fun_induction settle c generalizing o with
  | case1 c _ => exact h
  | case2 c next entries ht _ last more hs ih =>
    rw [List.foldl_append]
    simpa only [hs] using ih (turn h ht)

/-- What every action of a callback preserves, all its actions together preserve. -/
theorem actAll_invariant (e : Event)
    (act : ∀ {c : Client} {o : σ} (action : Action), P c o →
      P (c.act e action).1 (note o (.acted action (c.act e action).2))) :
    ∀ {c : Client} {o : σ} (actions : List Action), P c o →
      P (c.actAll e actions).1 ((c.actAll e actions).2.foldl note o)
  | _, _, [], h => h
  | c, o, action :: rest, h => by
    unfold actAll
    split
    · next hn => cases hn
    · next hp =>
      obtain ⟨rfl, rfl⟩ := List.cons.inj hp
      exact act .panic h
    · next hc =>
      obtain ⟨rfl, rfl⟩ := List.cons.inj hc
      exact actAll_invariant e act rest (act action h)

end Client

end ChatLink
