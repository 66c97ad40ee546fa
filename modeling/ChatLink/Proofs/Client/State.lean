import ChatLink.Client.Script
import ChatLink.Proofs.Client.Turn
import ChatLink.Proofs.Client.Calls

/-!
# The state and the stage

The state of a client and the stage of its service are kept apart, and the state is what an
application sees; so are the session and the thread by which a service knows itself. `Coherent` says
that they never disagree : the state of a client with a session is the one of its service's stage, a
client without a session is idle or closed, and the thread is the one of the session. It holds of a
client that was never connected, every turn and every call preserve it, and so does every step
(`Coherent.perform`).
-/

namespace ChatLink

/-- The state in which a client shows a service that stands here. A service that broke down leaves
the state as it was. -/
def Stage.state : Stage → Lifecycle
  | held => .connecting
  | greeting _ => .established
  | serving _ _ | panicked => .active
  | leaving _ | parting _ _ | ended => .closed

/-- A write waits. -/
def Stage.isStalled : Stage → Bool
  | greeting _ => true
  | serving _ pending => pending.isSome
  | held | leaving _ | parting _ _ | ended | panicked => false

theorem Stage.state_receive {item : Item} {stage stage' : Stage}
    (h : stage.receive item = some stage') : stage'.state = stage.state := by
  rcases receive_cases h with ⟨_, rfl, rfl⟩ | ⟨_, _, rfl, rfl⟩ | ⟨_, rfl, rfl⟩ <;> rfl

/-- The closing of a transport is over, or it hangs. -/
theorem Farewell.await_cases (farewell : Farewell) (grace : Nat) :
    farewell.await grace = .ended ∨ ∃ grace', farewell.await grace = .parting .hangs grace' := by
  cases farewell with
  | done | failed => exact .inl rfl
  | hangs =>
    cases grace with
    | zero => exact .inl rfl
    | succ grace => exact .inr ⟨grace, rfl⟩

theorem Farewell.state_await (farewell : Farewell) (grace : Nat) :
    (farewell.await grace).state = .closed := by
  rcases farewell.await_cases grace with h | ⟨grace', h⟩ <;> rw [h] <;> rfl

namespace Client

/-- The service broke down. -/
def HasPanicked (c : Client) : Prop := c.stage? = some .panicked

/-- A write of the service waits. -/
def IsStalled (c : Client) : Prop := ∃ stage ∈ c.stage?, stage.isStalled = true

/-- A client with these settings whose state and session agree. -/
structure Coherent (settings : Settings) (c : Client) : Prop where
  settings_eq : c.settings = settings
  state_of_session : ∀ {s : Session}, c.session = some s → c.state = s.stage.state
  state_of_none : c.session = none → c.state = .idle ∨ c.state = .closed
  /-- Whoever runs on the thread of the session is known to. -/
  serviceThread_eq : c.serviceThread = c.session.map (·.thread)

theorem entered_state {c : Client} (peer : Peer) (h : c.state = .connecting) :
    (c.entered peer).state = .established := by
  rw [entered, h]
  rfl

/-! ## What a callback leaves alone -/

/-- All that a callback can change is the session and the callback. -/
def Touches (c c' : Client) : Prop :=
  ∃ session callback, c' = { c with session := session, callback := callback }

namespace Touches

theorem refl (c : Client) : Touches c c := ⟨_, _, rfl⟩

theorem trans {c c' c'' : Client} (h : Touches c c') (h' : Touches c' c'') : Touches c c'' := by
  obtain ⟨_, _, rfl⟩ := h
  obtain ⟨_, _, rfl⟩ := h'
  exact ⟨_, _, rfl⟩

theorem submit (c : Client) (e : Envelope) : Touches c (c.submit e).1 := by
  rcases c.submit_cases e with ⟨s, -, -, -, heq⟩ | ⟨-, heq⟩ <;> rw [heq]
  · exact ⟨_, _, rfl⟩
  · exact refl c

theorem submitAll : ∀ (c : Client) (es : List Envelope), Touches c (c.submitAll es).1
  | c, [] => refl c
  | c, e :: es => (submit c e).trans (submitAll (c.submit e).1 es)

theorem act (c : Client) (e : Event) (action : Action) : Touches c (c.act e action).1 := by
  cases action with
  | join room => exact submit c _
  | leave room => exact submit c _
  | send room text => exact submit c _
  | echo => exact submit c _
  | close =>
    rw [Client.act]
    split <;> exact ⟨_, _, rfl⟩
  | connect =>
    rw [Client.act]
    split <;> exact refl c
  | state | clearCallback | setCallback _ _ | panic => exact ⟨_, _, rfl⟩

theorem deliver (c : Client) (frame : List UInt8) : Touches c (c.deliver frame).1 := by
  unfold Client.deliver
  split
  · next e callback _ _ =>
    exact actAll_invariant (fun _ _ => ()) (fun c' _ => Touches c c') e
      (fun action h => h.trans (act _ e action)) callback.actions (o := ()) (refl c)
  · exact refl c

variable {c c' : Client}

theorem state_eq (h : Touches c c') : c'.state = c.state := by
  obtain ⟨_, _, rfl⟩ := h
  rfl

theorem reader_eq (h : Touches c c') : c'.reader = c.reader := by
  obtain ⟨_, _, rfl⟩ := h
  rfl

end Touches

/-! ## The state is left to the service -/

theorem state_submit (c : Client) (e : Envelope) : (c.submit e).1.state = c.state :=
  (Touches.submit c e).state_eq

theorem state_submitAll (c : Client) (es : List Envelope) :
    (c.submitAll es).1.state = c.state :=
  (Touches.submitAll c es).state_eq

theorem state_push (c : Client) (item : Item) : (c.push item).1.state = c.state := by
  rcases c.push_cases item with ⟨s, stage, -, -, heq⟩ | ⟨-, heq⟩ <;> rw [heq]
  rfl

theorem state_act (c : Client) (e : Event) (action : Action) :
    (c.act e action).1.state = c.state :=
  (Touches.act c e action).state_eq

theorem state_deliver (c : Client) (frame : List UInt8) : (c.deliver frame).1.state = c.state :=
  (Touches.deliver c frame).state_eq

/-! ## The reader stays the one that the client was made with -/

theorem reader_apply (c : Client) (step : Step) : (c.apply step).1.reader = c.reader := by
  have hclose : (c.close .application).1.reader = c.reader := by
    rcases hs : c.session with _ | s
    · rw [close_of_none hs]
    · rw [close_of_session hs]
      rfl
  cases step with
  | connect =>
    rw [apply_connect]
    rcases c.connect_cases with ⟨endpoint, -, -, heq⟩ | ⟨error, -, heq⟩ | ⟨error, -, -, heq⟩
    · rw [heq]
      rfl
    · rw [heq]
    · rw [heq]
      exact c.reader_reap.1
  | expire =>
    rw [apply_expire]
    rcases c.expire_cases with ⟨s, -, -, -, heq⟩ | heq <;> rw [heq]
    rfl
  | submit e => exact (Touches.submit c e).reader_eq
  | submitAll es => exact (Touches.submitAll c es).reader_eq
  | push item =>
    rw [apply_push]
    rcases c.push_cases item with ⟨s, stage, -, -, heq⟩ | ⟨-, heq⟩ <;> rw [heq]
    rfl
  | close => rw [apply_close]; exact hclose
  | drop => rw [apply_drop]; exact hclose
  | release | configure _ | setCallback _ | clearCallback | observe | describe | settings => rfl

theorem reader_turn {c c' : Client} {es : List Entry} (ht : c.turn = some (c', es)) :
    c'.reader = c.reader := by
  obtain ⟨s, -, hturns⟩ := turns_of_turn ht
  cases hturns with
  | enters _ _ _ _ hg => cases hg <;> rfl
  | greets _ _ hg => cases hg <;> rfl
  | writesNext _ _ _ hw => cases hw <;> rfl
  | writesPending _ _ hw => cases hw <;> rfl
  | consumes _ _ _ _ => exact (Touches.deliver _ _).reader_eq
  | _ => rfl

/-- The service serves, or broke down while it did. -/
structure Works (settings : Settings) (c : Client) : Prop where
  settings_eq : c.settings = settings
  state_eq : c.state = .active
  session : ∃ s, c.session = some s ∧ s.stage.state = .active ∧ c.serviceThread = some s.thread

namespace Coherent

variable {settings : Settings} {c c' : Client} {s s' : Session} {es : List Entry}

theorem new (reader : Address.Reader) (settings : Settings) :
    Coherent settings (.new reader settings) :=
  ⟨rfl, fun h => absurd h (Option.some_ne_none _).symm, fun _ => .inl rfl, rfl⟩

theorem of_session (hset : c.settings = settings) (hs : c.session = some s)
    (hst : c.state = s.stage.state) (ht : c.serviceThread = some s.thread) :
    Coherent settings c := by
  refine ⟨hset, ?_, fun h => absurd (hs.symm.trans h) (Option.some_ne_none s), ?_⟩
  · intro s' hs'
    obtain rfl := Option.some.inj (hs.symm.trans hs')
    exact hst
  · rw [ht, hs]
    rfl

theorem of_works (h : Works settings c) : Coherent settings c := by
  obtain ⟨hset, hst, s, hs, hstage, ht⟩ := h
  exact of_session hset hs (hst.trans hstage.symm) ht

theorem thread (h : Coherent settings c) (hs : c.session = some s) :
    c.serviceThread = some s.thread := by
  rw [h.serviceThread_eq, hs]
  rfl

/-- The session goes on, and the state with it. -/
theorem update (h : Coherent settings c) (hs : c.session = some s)
    (hset : c'.settings = c.settings) (ht : c'.serviceThread = c.serviceThread)
    (hs' : c'.session = some s') (hown : s'.thread = s.thread) (hst : c'.state = s'.stage.state) :
    Coherent settings c' :=
  of_session (hset.trans h.settings_eq) hs' hst (by rw [ht, h.thread hs, hown])

theorem leave (h : Coherent settings c) (hs : c.session = some s) (inbox : Option (List Item)) :
    Coherent settings (c.leave s inbox) :=
  h.update hs rfl rfl rfl rfl rfl

theorem down (h : c.settings = settings) : Coherent settings c.down :=
  ⟨h, fun h => absurd h (Option.some_ne_none _).symm, fun _ => .inr rfl, rfl⟩

theorem state_eq {stage : Stage} (h : Coherent settings c) (hs : c.session = some s)
    (hst : s.stage = stage) : c.state = stage.state := by
  rw [h.state_of_session hs, hst]

/-- A client that is idle has no session. -/
theorem session_of_idle (h : Coherent settings c) (hst : c.state = .idle) : c.session = none := by
  rcases hs : c.session with _ | s
  · rfl
  · rw [h.state_of_session hs] at hst
    cases hstage : s.stage <;> rw [hstage] at hst <;> cases hst

/-! ## Calls -/

theorem submit (h : Coherent settings c) (e : Envelope) : Coherent settings (c.submit e).1 := by
  rcases c.submit_cases e with ⟨s, hs, -, -, heq⟩ | ⟨-, heq⟩
  · rw [heq]
    have hstate := h.state_of_session hs
    exact h.update hs rfl rfl rfl rfl hstate
  · rw [heq]
    exact h

theorem submitAll : ∀ {c : Client}, Coherent settings c → ∀ es : List Envelope,
    Coherent settings (c.submitAll es).1
  | _, h, [] => h
  | _, h, e :: es => submitAll (h.submit e) es

theorem begin (h : c.settings = settings) : Coherent settings c.begin := of_session h rfl rfl rfl

/-- A service that is not in its loop any more has left a state that is closed. -/
theorem state_eq_closed (h : Coherent settings c) (hs : c.session = some s)
    (hlive : c.state.isLive = false) : s.stage.isLooping = false ∧ c.state = .closed := by
  have hstate := h.state_of_session hs
  rw [hstate] at hlive ⊢
  cases hst : s.stage <;> rw [hst] at hlive <;> first | exact ⟨rfl, rfl⟩ | cases hlive

/-- Where no session lives, nothing is left of the last one once it was waited for. -/
theorem reap_eq (h : Coherent settings c) (hlive : c.state.isLive = false) :
    c.reap = (c.released, c.partingEntries) := by
  rcases hs : c.session with _ | s
  · have ht : c.serviceThread = none := by rw [h.serviceThread_eq, hs]; rfl
    rw [reap_of_none hs, partingEntries_of_none hs, released_of_none hs ht]
  · rw [reap_of_session hs, (h.state_eq_closed hs hlive).1]
    rfl

theorem released (h : Coherent settings c) (hlive : c.state.isLive = false) :
    Coherent settings c.released := by
  refine ⟨h.settings_eq, fun hs => absurd hs (Option.some_ne_none _).symm, fun _ => ?_, rfl⟩
  show c.state = .idle ∨ c.state = .closed
  rcases hs : c.session with _ | s
  · exact h.state_of_none hs
  · exact .inr (h.state_eq_closed hs hlive).2

theorem connect (h : Coherent settings c) : Coherent settings (c.connect .application).1 := by
  rcases c.connect_cases with ⟨endpoint, -, -, heq⟩ | ⟨error, -, heq⟩ | ⟨error, hr, -, heq⟩
  · rw [heq]
    exact begin h.settings_eq
  · rw [heq]
    exact h
  · have hlive := (refusal?_eq_none.1 hr).2
    rw [heq, h.reap_eq hlive]
    exact h.released hlive

theorem expire (h : Coherent settings c) : Coherent settings c.expire := by
  rcases c.expire_cases with ⟨s, hs, -, -, heq⟩ | heq
  · rw [heq]
    exact h.leave hs none
  · rw [heq]
    exact h

theorem push (h : Coherent settings c) (item : Item) : Coherent settings (c.push item).1 := by
  rcases c.push_cases item with ⟨s, stage, hs, hst, heq⟩ | ⟨-, heq⟩
  · rw [heq]
    have hstate := h.state_of_session hs
    rw [← Stage.state_receive hst] at hstate
    exact h.update hs rfl rfl rfl rfl hstate
  · rw [heq]
    exact h

theorem close (h : Coherent settings c) : Coherent settings (c.close .application).1 := by
  rcases hs : c.session with _ | s
  · rw [close_of_none hs]
    exact h
  · rw [close_of_session hs]
    exact down h.settings_eq

theorem apply (h : Coherent settings c) (step : Step) : Coherent settings (c.apply step).1 := by
  cases step with
  | connect => simpa only [apply_connect] using h.connect
  | expire => simpa only [apply_expire] using h.expire
  | submit e => simpa only [apply_submit] using h.submit e
  | submitAll es => simpa only [apply_submitAll] using h.submitAll es
  | close => simpa only [apply_close] using h.close
  | push item => simpa only [apply_push] using h.push item
  | release | configure _ | setCallback _ | clearCallback | observe | describe | settings =>
    rw [Client.apply]
    exact ⟨h.settings_eq, h.state_of_session, h.state_of_none, h.serviceThread_eq⟩
  | drop => simpa only [apply_drop] using h.close

/-! ## Turns -/

theorem greets {s₁ : Session} {inbox : List Item} (h : c.settings = settings)
    (ht : c.serviceThread = some s₁.thread) (hst : c.state = .established)
    (hg : Greets c s₁ inbox c' es) : Coherent settings c' := by
  cases hg with
  | fails _ => exact of_session h rfl rfl ht
  | arrives _ => exact of_session h rfl (by rw [hst]; rfl) ht

theorem writes {s₁ : Session} {inbox : List Item} {e : Envelope} (h : c.settings = settings)
    (ht : c.serviceThread = some s₁.thread) (hst : c.state = .active)
    (hw : Writes c s₁ inbox e c' es) : Coherent settings c' := by
  cases hw with
  | fails _ => exact of_session h rfl rfl ht
  | arrives _ => exact of_session h rfl hst ht

end Coherent

namespace Works

variable {settings : Settings} {c : Client}

theorem submit (h : Works settings c) (e : Envelope) : Works settings (c.submit e).1 := by
  rcases c.submit_cases e with ⟨s, hs, -, -, heq⟩ | ⟨-, heq⟩
  · obtain ⟨hset, hst, s', hs', hstage, ht⟩ := h
    obtain rfl := Option.some.inj (hs.symm.trans hs')
    rw [heq]
    exact ⟨hset, hst, _, rfl, hstage, ht⟩
  · rw [heq]
    exact h

theorem requestStop (h : Works settings c) : Works settings c.requestStop := by
  obtain ⟨hset, hst, s, hs, hstage, ht⟩ := h
  exact ⟨hset, hst, { s with stopping := true }, congrArg (Option.map _) hs, hstage, ht⟩

theorem crash (h : Works settings c) : Works settings c.crash := by
  obtain ⟨hset, hst, s, hs, -, ht⟩ := h
  exact ⟨hset, hst, { s with stage := .panicked, outbox := s.outbox.dropReceiver },
    congrArg (Option.map _) hs, rfl, ht⟩

/-- A service that serves still does after an action, or the action broke it down. -/
theorem act (h : Works settings c) (e : Event) (action : Action) :
    Works settings (c.act e action).1 := by
  cases action with
  | join room => exact h.submit _
  | leave room => exact h.submit _
  | send room text => exact h.submit _
  | echo => exact h.submit _
  | close =>
    rw [Client.act]
    split
    · exact h.requestStop
    · exact h
  | connect =>
    rw [Client.act]
    split <;> exact h
  | state => exact h
  | clearCallback => exact ⟨h.settings_eq, h.state_eq, h.session⟩
  | setCallback name actions => exact ⟨h.settings_eq, h.state_eq, h.session⟩
  | panic => exact h.crash

theorem deliver (h : Works settings c) (frame : List UInt8) :
    Works settings (c.deliver frame).1 := by
  unfold Client.deliver
  split
  · next e callback _ _ =>
    exact actAll_invariant (fun _ _ => ()) (fun c _ => Works settings c) e
      (fun action h => h.act e action) callback.actions (o := ()) h
  · exact h

end Works

namespace Coherent

variable {settings : Settings} {c c' : Client} {es : List Entry}

/-- A turn preserves that the state and the session agree. -/
theorem turn (h : Coherent settings c) (ht : c.turn = some (c', es)) : Coherent settings c' := by
  obtain ⟨s, hs, hturns⟩ := turns_of_turn ht
  cases hturns with
  | givesUp _ _ => exact h.leave hs none
  | quits _ _ | deserted _ _ _ | ends _ _ _ _ => exact h.leave hs _
  | refused _ _ _ _ => exact h.update hs rfl rfl rfl rfl rfl
  | @greetingWaits peer hst _ _ _ _ =>
    have hstate := entered_state peer (h.state_eq hs hst)
    exact h.update hs rfl rfl rfl rfl hstate
  | @enters peer _ _ hst _ _ _ hg =>
    have hset : (c.entered peer).settings = settings := h.settings_eq
    exact greets hset (h.thread hs) (entered_state peer (h.state_eq hs hst)) hg
  | greets hst _ hg => exact greets h.settings_eq (h.thread hs) (h.state_eq hs hst) hg
  | writeWaits hst _ _ _ =>
    have hstate := h.state_eq hs hst
    exact h.update hs rfl rfl rfl rfl hstate
  | writesNext hst _ _ hw =>
    have hthread := h.thread hs
    refine writes h.settings_eq ?_ (h.state_eq hs hst) hw
    exact hthread
  | writesPending hst _ hw => exact writes h.settings_eq (h.thread hs) (h.state_eq hs hst) hw
  | consumes hst _ _ _ =>
    have hstate := h.state_eq hs hst
    have hthread := h.thread hs
    refine of_works (Works.deliver ?_ _)
    exact ⟨h.settings_eq, hstate, _, rfl, rfl, hthread⟩
  | closes hst =>
    have hstate := h.state_eq hs hst
    exact h.update hs rfl rfl rfl rfl hstate
  | @awaits farewell grace hst =>
    have hstate := h.state_eq hs hst
    exact h.update hs rfl rfl rfl rfl (hstate.trans (farewell.state_await grace).symm)
  | returns hst =>
    have hstate := h.state_eq hs hst
    exact h.update hs rfl rfl rfl rfl hstate

/-- There is a session before a turn, and after it. -/
theorem state_ne_idle_of_turn (h : Coherent settings c) (ht : c.turn = some (c', es)) :
    c.state ≠ .idle ∧ c'.state ≠ .idle := by
  refine ⟨fun hst => ?_, fun hst => ?_⟩
  · rw [turn_of_none (h.session_of_idle hst)] at ht
    cases ht
  · obtain ⟨s, hs⟩ := exists_session_of_turn ht
    exact Option.some_ne_none s (hs.symm.trans ((h.turn ht).session_of_idle hst))

theorem settle (h : Coherent settings c) : Coherent settings c.settle.1 :=
  settle_invariant (fun _ _ => ()) (fun c _ => Coherent settings c) turn (o := ()) h

theorem state_settle_ne_idle (h : Coherent settings c) (hst : c.state ≠ .idle) :
    c.settle.1.state ≠ .idle := by
  have hsettle := settle_invariant (fun _ _ => ())
    (fun c _ => Coherent settings c ∧ c.state ≠ .idle)
    (fun h ht => ⟨h.1.turn ht, (h.1.state_ne_idle_of_turn ht).2⟩) (o := ()) ⟨h, hst⟩
  exact hsettle.2

/-! ## Idle means never connected -/

/-- Whoever waits for a service leaves an idle client idle. -/
theorem state_reap_eq_idle_iff (h : Coherent settings c) (hlive : c.state.isLive = false) :
    c.reap.1.state = .idle ↔ c.state = .idle := by
  rw [h.reap_eq hlive]
  rfl

/-- An idle client stays idle until an attempt begins, and no client becomes idle again. -/
theorem state_apply_eq_idle_iff (h : Coherent settings c) (step : Step) :
    (c.apply step).1.state = .idle ↔
      c.state = .idle ∧ ¬(.connect = step ∧ .called .ok = (c.apply step).2.1) := by
  have hclose : (c.close .application).1.state = .idle ↔ c.state = .idle := by
    rcases hs : c.session with _ | s
    · rw [close_of_none hs]
    · rw [close_of_session hs]
      refine iff_of_false nofun fun hst => ?_
      exact Option.some_ne_none s (hs.symm.trans (h.session_of_idle hst))
  cases step with
  | connect =>
    rw [apply_connect]
    rcases c.connect_cases with ⟨endpoint, -, -, heq⟩ | ⟨error, -, heq⟩ | ⟨error, hr, -, heq⟩
    · simp [heq, Client.begin]
    · simp [heq]
    · simp [heq, h.state_reap_eq_idle_iff (refusal?_eq_none.1 hr).2]
  | expire =>
    rw [apply_expire]
    rcases c.expire_cases with ⟨s, hs, -, -, heq⟩ | heq
    · rw [heq]
      refine iff_of_false nofun fun hst => ?_
      exact Option.some_ne_none s (hs.symm.trans (h.session_of_idle hst.1))
    · simp [heq]
  | submit e => simp [apply_submit, state_submit]
  | submitAll es => simp [apply_submitAll, state_submitAll]
  | push item => simp [apply_push, state_push]
  | close => simp [apply_close, hclose]
  | drop => simp [apply_drop, hclose]
  | release | configure _ | setCallback _ | clearCallback | observe | describe | settings =>
    simp [Client.apply]

/-- Where the state is active and nothing is amiss, the service serves and is free to write. -/
theorem serving_of_active (h : Coherent settings c) (hst : c.state = .active)
    (hpanicked : ¬c.HasPanicked) (hstalled : ¬c.IsStalled) :
    ∃ s inbox, c.session = some s ∧ s.stage = .serving inbox none := by
  rcases hs : c.session with _ | s
  · rcases h.state_of_none hs with hstate | hstate
    · rw [hst] at hstate
      cases hstate
    · rw [hst] at hstate
      cases hstate
  · have hstage : c.stage? = some s.stage := congrArg (Option.map _) hs
    have hstate := (h.state_of_session hs).symm.trans hst
    cases hs' : s.stage with
    | serving inbox pending =>
      rcases pending with _ | e
      · exact ⟨s, inbox, rfl, hs'⟩
      · exact absurd ⟨s.stage, hstage, by rw [hs']; rfl⟩ hstalled
    | panicked => exact absurd (hstage.trans (congrArg some hs')) hpanicked
    | held | greeting _ | leaving _ | parting _ _ | ended =>
      rw [hs'] at hstate
      cases hstate

/-- A step preserves that the state and the session agree. -/
theorem perform (h : Coherent settings c) {step : Step} (hc : (c.perform step).1 = some c') :
    Coherent settings c' := by
  rw [(c.perform_eq step).2.2 c' hc]
  exact (h.apply step).settle

end Coherent

end Client

end ChatLink
