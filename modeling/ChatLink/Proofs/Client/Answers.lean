import ChatLink.Proofs.Client.Standing

/-!
# What calls are answered

Joining, leaving and sending succeed as long as a session is live and its service did not break down
(`Client.Takes`). Connecting looks at the settings, then at the state, then at the endpoint, and is
refused for the first that is not as it should be. A callback cannot connect, and what it sends is
always accepted, even after it asked for a stop (`Action.answer`). A call that is refused changes
nothing. `Client.answers_chronicle` says so of every client that made any moves, however endpoints
are read.

The state and the outbox are kept apart. That they agree about what is taken is an invariant : the
outbox of a session has a receiver until the callback breaks down (`Client.Attended`).

Whoever connects waits for the last service before he looks at the endpoint, and would find the
session taken down if that could not be used. But then no attempt was ever begun, and there is no
session (`Client.Responds.session_eq_none`).
-/

namespace ChatLink

/-- The call was refused. -/
def Outcome.isRefused : Outcome → Bool
  | refused _ => true
  | ok | state _ | nothing | stuck => false

/-- A call of the step was refused. -/
def Reply.isRefused : Reply → Bool
  | called outcome => outcome.isRefused
  | calledAll outcomes => outcomes.any Outcome.isRefused
  | pushed _ | description _ | settings _ | nothing | dropped => false

/-- What an action of a callback is answered. -/
def Action.answer : Action → Outcome
  | join _ | leave _ | send _ _ | echo | close => .ok
  | connect => .refused .alreadyConnected
  | state => .state .active
  | clearCallback | setCallback _ _ | panic => .nothing

/-- What is logged of an action. -/
def Action.entry (action : Action) : Entry := .acted action action.answer

namespace Client

/-- Envelopes are taken : a session is live, and its service did not break down. -/
def Takes (c : Client) : Prop := c.state.isLive = true ∧ ¬c.HasPanicked

instance (c : Client) : Decidable c.Takes :=
  inferInstanceAs (Decidable (c.state.isLive = true ∧ ¬c.stage? = some .panicked))

/-- The outbox of the session has a receiver, unless the callback broke down. -/
def Attended (c : Client) : Prop :=
  ∀ s ∈ c.session, (s.outbox.hasReceiver = true ↔ s.stage ≠ .panicked)

variable {settings : Settings} {c c' : Client} {s : Session} {told : List Occurrence}
  {es : List Entry}

/-! ## The outbox has a receiver -/

namespace Attended

theorem of_none (hs : c.session = none) : Attended c :=
  fun s h => absurd (hs.symm.trans h) (Option.some_ne_none s).symm

theorem of_session (hs : c.session = some s)
    (h : s.outbox.hasReceiver = true ↔ s.stage ≠ .panicked) : Attended c := by
  intro s' hs'
  obtain rfl := Option.some.inj (hs.symm.trans hs')
  exact h

/-- A service that leaves its loop has not broken down. -/
theorem leave (h : Attended c) (hs : c.session = some s) (hst : s.stage ≠ .panicked)
    (inbox : Option (List Item)) : Attended (c.leave s inbox) :=
  of_session rfl (iff_of_true ((h s hs).2 hst) nofun)

/-- A session that has a receiver has one wherever its service goes. -/
theorem of_hasReceiver (hs : c.session = some s) (hr : s.outbox.hasReceiver = true)
    (hst : s.stage ≠ .panicked) : Attended c :=
  of_session hs (iff_of_true hr hst)

theorem submit (h : Attended c) (e : Envelope) : Attended (c.submit e).1 := by
  rcases c.submit_cases e with ⟨s, hs, -, -, heq⟩ | ⟨-, heq⟩
  · rw [heq]
    exact of_session rfl (h s hs)
  · rw [heq]
    exact h

theorem submitAll : ∀ {c : Client}, Attended c → ∀ es : List Envelope, Attended (c.submitAll es).1
  | _, h, [] => h
  | _, h, e :: es => submitAll (h.submit e) es

theorem requestStop (h : Attended c) : Attended c.requestStop := by
  rcases hs : c.session with _ | s
  · exact of_none (by rw [Client.requestStop, hs]; rfl)
  · exact of_session (s := { s with stopping := true })
      (by rw [Client.requestStop, hs]; rfl) (h s hs)

theorem crash (c : Client) : Attended c.crash := by
  rcases hs : c.session with _ | s
  · exact of_none (by rw [Client.crash, hs]; rfl)
  · exact of_session (s := { s with stage := .panicked, outbox := s.outbox.dropReceiver })
      (by rw [Client.crash, hs]; rfl) (by simp [Outbox.dropReceiver])

theorem act (h : Attended c) (e : Event) (action : Action) : Attended (c.act e action).1 := by
  cases action with
  | join room => exact h.submit _
  | leave room => exact h.submit _
  | send room text => exact h.submit _
  | echo => exact h.submit _
  | close =>
    rw [Client.act]
    split
    · exact h.requestStop
    · exact h
  | connect =>
    rw [Client.act]
    split <;> exact h
  | panic => exact crash c
  | state | clearCallback | setCallback _ _ => exact h

theorem deliver (h : Attended c) (frame : List UInt8) : Attended (c.deliver frame).1 := by
  unfold Client.deliver
  split
  · next e callback _ _ =>
    exact actAll_invariant (fun _ _ => ()) (fun c _ => Attended c) e
      (fun action h => h.act e action) callback.actions (o := ()) h
  · exact h

theorem apply (h : Attended c) (step : Step) : Attended (c.apply step).1 := by
  have hclose : Attended (c.close .application).1 := of_none c.session_close
  cases step with
  | connect =>
    rw [apply_connect]
    rcases c.connect_cases with ⟨endpoint, -, -, heq⟩ | ⟨error, -, heq⟩ | ⟨error, -, -, heq⟩
    · rw [heq]
      exact of_hasReceiver rfl rfl nofun
    · rw [heq]
      exact h
    · rw [heq]
      exact of_none c.session_reap
  | expire =>
    rw [apply_expire]
    rcases c.expire_cases with ⟨s, hs, hst, -, heq⟩ | heq
    · rw [heq]
      exact h.leave hs (by simp [hst]) none
    · rw [heq]
      exact h
  | submit e => exact h.submit e
  | submitAll es => exact h.submitAll es
  | push item =>
    rw [apply_push]
    rcases c.push_cases item with ⟨s, stage, hs, hreceive, heq⟩ | ⟨-, heq⟩
    · rw [heq]
      obtain ⟨hst, hst'⟩ := Stage.ne_panicked_of_receive hreceive
      exact of_hasReceiver rfl ((h s hs).2 hst) hst'
    · rw [heq]
      exact h
  | close => rw [apply_close]; exact hclose
  | drop => rw [apply_drop]; exact hclose
  | release | configure _ | setCallback _ | clearCallback | observe | describe | settings => exact h

theorem greets {inbox : List Item} (hr : s.outbox.hasReceiver = true)
    (hg : Greets c s inbox c' es) : Attended c' := by
  cases hg with
  | fails _ | arrives _ => exact of_hasReceiver rfl hr nofun

theorem writes {inbox : List Item} {e : Envelope} (hr : s.outbox.hasReceiver = true)
    (hw : Writes c s inbox e c' es) : Attended c' := by
  cases hw with
  | fails _ | arrives _ => exact of_hasReceiver rfl hr nofun

theorem turn (h : Attended c) (ht : c.turn = some (c', es)) : Attended c' := by
  obtain ⟨s, hs, hturns⟩ := turns_of_turn ht
  have hr : s.stage ≠ .panicked → s.outbox.hasReceiver = true := (h s hs).2
  cases hturns with
  | givesUp hst _ => exact h.leave hs (by simp [hst]) none
  | quits hst _ => exact h.leave hs (fun hpanicked => by rw [hpanicked] at hst; cases hst) _
  | refused hst _ _ _ => exact of_hasReceiver rfl (hr (by simp [hst])) nofun
  | greetingWaits hst _ _ _ _ => exact of_hasReceiver rfl (hr (by simp [hst])) nofun
  | enters hst _ _ _ hg => exact greets (hr (by simp [hst])) hg
  | greets hst _ hg => exact greets (hr (by simp [hst])) hg
  | writeWaits hst _ _ _ => exact of_hasReceiver rfl (hr (by simp [hst])) nofun
  | @writesNext inbox e queue _ _ hst _ _ hw =>
    have hqueue : (s.withQueue queue).outbox.hasReceiver = true := hr (by simp [hst])
    exact writes hqueue hw
  | writesPending hst _ hw => exact writes (hr (by simp [hst])) hw
  | deserted hst _ _ | ends hst _ _ _ => exact h.leave hs (by simp [hst]) _
  | @consumes item inbox _ hst _ _ _ =>
    have hserving : Attended (c.withSession { s with stage := .serving inbox none }) :=
      of_hasReceiver rfl (hr (by simp [hst])) nofun
    exact hserving.deliver _
  | closes hst | returns hst => exact of_hasReceiver rfl (hr (by simp [hst])) nofun
  | @awaits farewell grace hst =>
    have hawait : farewell.await grace ≠ .panicked := by
      rcases farewell.await_cases grace with hawait | ⟨_, hawait⟩ <;> rw [hawait] <;> nofun
    exact of_hasReceiver rfl (hr (by simp [hst])) hawait

end Attended

/-! ## Envelopes are taken -/

/-- Between calls and turns a client is live, or it is idle or closed. -/
theorem Coherent.isLive_iff (h : Coherent settings c) :
    c.state.isLive = true ↔ ¬(c.state = .idle ∨ c.state = .closed) := by
  rcases hs : c.session with _ | s
  · rcases h.state_of_none hs with hst | hst <;> simp [hst, Lifecycle.isLive]
  · rw [h.state_of_session hs]
    cases s.stage <;> simp [Stage.state, Lifecycle.isLive]

/-- Envelopes are taken where there is somebody who receives them. -/
theorem takes_iff (hc : Coherent settings c) (ha : Attended c) :
    c.Takes ↔ ¬(c.state = .idle ∨ c.state = .closed) ∧
      ∃ s, c.session = some s ∧ s.outbox.hasReceiver = true := by
  rw [Takes, hc.isLive_iff]
  refine and_congr_right fun hlive => ?_
  rcases hs : c.session with _ | s
  · exact absurd (hc.state_of_none hs) hlive
  · have hpanicked : c.HasPanicked ↔ s.stage = .panicked := by
      simp [HasPanicked, stage?, hs]
    rw [hpanicked, ← ne_eq, ← ha s hs]
    simp

theorem submit_of_takes (hc : Coherent settings c) (ha : Attended c) (h : c.Takes) (e : Envelope) :
    (c.submit e).2 = .ok := by
  obtain ⟨hlive, s, hs, hr⟩ := (takes_iff hc ha).1 h
  rcases c.submit_cases e with ⟨s', -, -, -, heq⟩ | ⟨hrefused, -⟩
  · rw [heq]
  · rcases hrefused with hst | hst | hnone
    · exact absurd (.inl hst) hlive
    · exact absurd (.inr hst) hlive
    · exact absurd (hr.symm.trans (hnone s hs)) (by decide)

theorem submit_of_not_takes (hc : Coherent settings c) (ha : Attended c) (h : ¬c.Takes)
    (e : Envelope) : c.submit e = (c, .refused .notConnected) := by
  rcases c.submit_cases e with ⟨s, hs, hr, hlive, -⟩ | ⟨-, heq⟩
  · exact absurd ((takes_iff hc ha).2 ⟨hlive, s, hs, hr⟩) h
  · exact heq

theorem takes_submit (e : Envelope) : (c.submit e).1.Takes ↔ c.Takes := by
  rw [Takes, Takes, HasPanicked, HasPanicked, state_submit, stage?_submit]

theorem submitAll_of_takes : ∀ {c : Client}, Coherent settings c → Attended c → c.Takes →
    ∀ es : List Envelope, (c.submitAll es).2 = es.map fun _ => .ok
  | _, _, _, _, [] => rfl
  | c, hc, ha, h, e :: es => by
    have hrest := submitAll_of_takes (hc.submit e) (ha.submit e) ((takes_submit e).2 h) es
    show (c.submit e).2 :: ((c.submit e).1.submitAll es).2 = _
    rw [submit_of_takes hc ha h, hrest]
    rfl

theorem submitAll_of_not_takes (hc : Coherent settings c) (ha : Attended c) (h : ¬c.Takes) :
    ∀ es : List Envelope, c.submitAll es = (c, es.map fun _ => .refused .notConnected)
  | [] => rfl
  | e :: es => by
    rw [submitAll, submit_of_not_takes hc ha h]
    dsimp only
    rw [submitAll_of_not_takes hc ha h es]
    rfl

/-! ## Refusals change nothing -/

/-- A callback that is refused something goes on as if it had not asked. -/
theorem act_of_isRefused {c : Client} {e : Event} {action : Action}
    (h : (c.act e action).2.isRefused = true) : (c.act e action).1 = c := by
  have hsubmit : ∀ e' : Envelope, (c.submit e').2.isRefused = true → (c.submit e').1 = c := by
    intro e' he
    rcases c.submit_cases e' with ⟨s, -, -, -, heq⟩ | ⟨-, heq⟩
    · rw [heq] at he
      cases he
    · rw [heq]
  cases action with
  | join room => exact hsubmit _ h
  | leave room => exact hsubmit _ h
  | send room text => exact hsubmit _ h
  | echo => exact hsubmit _ h
  | close =>
    rw [act] at h
    split at h <;> cases h
  | connect =>
    rw [act]
    split <;> rfl
  | state | clearCallback | setCallback _ _ | panic => cases h

/-- A call that is refused leaves the client as it was, if there is no session wherever the endpoint
cannot be used. -/
theorem apply_of_isRefused (hc : Coherent settings c) (ha : Attended c)
    (hunusable : ∀ error, Endpoint.parse c.reader c.settings.endpoint = .error error →
      c.session = none) {step : Step}
    (h : (c.apply step).2.1.isRefused = true) : c.apply step = (c, (c.apply step).2.1, []) := by
  cases step with
  | connect =>
    rw [apply_connect] at h ⊢
    rcases c.connect_cases with ⟨endpoint, -, -, heq⟩ | ⟨error, -, heq⟩ | ⟨error, -, hp, heq⟩
    · rw [heq] at h
      cases h
    · rw [heq]
    · rw [heq, reap_of_none (hunusable error hp)]
  | submit e =>
    rw [apply_submit] at h ⊢
    by_cases htakes : c.Takes
    · rw [submit_of_takes hc ha htakes] at h
      cases h
    · rw [submit_of_not_takes hc ha htakes]
  | submitAll es =>
    rw [apply_submitAll] at h ⊢
    by_cases htakes : c.Takes
    · rw [submitAll_of_takes hc ha htakes] at h
      simp [Reply.isRefused, Outcome.isRefused] at h
    · rw [submitAll_of_not_takes hc ha htakes]
  | expire | close | push _ | release | configure _ | setCallback _ | clearCallback | observe
  | describe | settings | drop => cases h

/-! ## Callbacks -/

/-- The service serves on the thread by which it knows itself, and receives what is sent. -/
structure Serves (c : Client) : Prop where
  state_eq : c.state = .active
  session : ∃ s, c.session = some s ∧ s.outbox.hasReceiver = true ∧ c.serviceThread = some s.thread

namespace Serves

theorem submit (h : Serves c) (e : Envelope) :
    (c.submit e).2 = .ok ∧ Serves (c.submit e).1 := by
  obtain ⟨hst, s, hs, hr, ht⟩ := h
  rcases c.submit_cases e with ⟨s', hs', hr', -, heq⟩ | ⟨hrefused, -⟩
  · obtain rfl := Option.some.inj (hs.symm.trans hs')
    rw [heq]
    exact ⟨rfl, hst, _, rfl, hr', ht⟩
  · rw [hst] at hrefused
    rcases hrefused with h | h | h
    · cases h
    · cases h
    · exact absurd (hr.symm.trans (h s hs)) (by decide)

/-- What a callback asks for it asks for on the thread of the service. -/
theorem onServiceThread (h : Serves c) : c.OnServiceThread c.handler := by
  obtain ⟨-, s, hs, -, ht⟩ := h
  rw [OnServiceThread, handler, hs, ht]
  rfl

/-- Every action of a callback has its answer, and the service serves until one breaks it down. -/
theorem act (h : Serves c) (e : Event) (action : Action) :
    (c.act e action).2 = action.answer ∧ (action ≠ .panic → Serves (c.act e action).1) := by
  cases action with
  | join room => exact ⟨(h.submit _).1, fun _ => (h.submit _).2⟩
  | leave room => exact ⟨(h.submit _).1, fun _ => (h.submit _).2⟩
  | send room text => exact ⟨(h.submit _).1, fun _ => (h.submit _).2⟩
  | echo => exact ⟨(h.submit _).1, fun _ => (h.submit _).2⟩
  | close =>
    rw [Client.act, if_pos h.onServiceThread]
    obtain ⟨hst, s, hs, hr, ht⟩ := h
    exact ⟨rfl, fun _ => ⟨hst, { s with stopping := true }, congrArg (Option.map _) hs, hr, ht⟩⟩
  | connect =>
    rw [Client.act, refusal?, if_pos h.onServiceThread]
    exact ⟨rfl, fun _ => h⟩
  | state => exact ⟨congrArg Outcome.state h.state_eq, fun _ => h⟩
  | panic => exact ⟨rfl, fun hp => absurd rfl hp⟩
  | clearCallback | setCallback _ _ => exact ⟨rfl, fun _ => ⟨h.state_eq, h.session⟩⟩

/-- A callback does its actions, and each has its answer; the first that breaks it down is the
last. -/
theorem actAll (e : Event) : ∀ {c : Client}, Serves c → ∀ actions : List Action,
    (.panic ∉ actions ∧ (c.actAll e actions).2 = actions.map Action.entry ∧
        (c.actAll e actions).1.stage? = c.stage?) ∨
      ∃ first never, actions = first ++ .panic :: never ∧ .panic ∉ first ∧
        (c.actAll e actions).2 = (first ++ [.panic]).map Action.entry ∧
          (c.actAll e actions).1.stage? = c.stage?.map fun _ => .panicked
  | _, _, [] => .inl ⟨List.not_mem_nil, rfl, rfl⟩
  | c, h, action :: rest => by
    unfold Client.actAll
    split
    · next hn => cases hn
    · next hp =>
      obtain ⟨rfl, rfl⟩ := List.cons.inj hp
      exact .inr ⟨[], _, rfl, List.not_mem_nil, rfl, c.stage?_crash⟩
    · next hne hc =>
      obtain ⟨rfl, rfl⟩ := List.cons.inj hc
      have hentry : .acted action (c.act e action).2 = action.entry :=
        congrArg _ (h.act e action).1
      have hstage := stage?_act_of_ne (c := c) (e := e) hne
      have hnot : ∀ {actions : List Action}, .panic ∉ actions → .panic ∉ action :: actions :=
        fun hactions hmem => (List.mem_cons.1 hmem).elim (fun heq => hne heq.symm) hactions
      rcases actAll e ((h.act e action).2 hne) rest with ⟨hpanic, hrest, hlast⟩ |
        ⟨first, never, rfl, hpanic, hrest, hlast⟩
      · exact .inl ⟨hnot hpanic, congrArg₂ _ hentry hrest, hlast.trans hstage⟩
      · refine .inr ⟨action :: first, never, rfl, hnot hpanic, congrArg₂ _ hentry hrest, ?_⟩
        rw [hlast, hstage]

theorem deliver (h : Serves c) {frame : List UInt8} {action : Action} {outcome : Outcome}
    (hmem : .acted action outcome ∈ (c.deliver frame).2) : outcome = action.answer := by
  unfold Client.deliver at hmem
  split at hmem
  · next e callback _ _ =>
    obtain ⟨done, hdone⟩ : ∃ done : List Action,
        (c.actAll e callback.actions).2 = done.map Action.entry := by
      rcases h.actAll e callback.actions with ⟨-, hentries, -⟩ | ⟨first, -, -, -, hentries, -⟩
      · exact ⟨_, hentries⟩
      · exact ⟨_, hentries⟩
    rcases List.mem_cons.1 hmem with heq | hmem
    · cases heq
    · rw [hdone] at hmem
      obtain ⟨action', -, heq⟩ := List.mem_map.1 hmem
      cases heq
      rfl
  · exact absurd hmem List.not_mem_nil

end Serves

/-- A service that turns to what it received serves. -/
theorem serves_of_stage {inbox rest : List Item} {pending : Option Envelope}
    (hc : Coherent settings c) (ha : Attended c) (hs : c.session = some s)
    (hst : s.stage = .serving inbox pending) :
    Serves (c.withSession { s with stage := .serving rest none }) := by
  have hthread := hc.thread hs
  exact ⟨hc.state_eq hs hst, _, rfl, (ha s hs).2 (by simp [hst]), hthread⟩

theorem acted_turn (hc : Coherent settings c) (ha : Attended c) (ht : c.turn = some (c', es))
    {action : Action} {outcome : Outcome} (hmem : .acted action outcome ∈ es) :
    outcome = action.answer := by
  obtain ⟨s, hs, hturns⟩ := turns_of_turn ht
  obtain ⟨item, inbox, frame, hst, -, -, hdeliver⟩ := hturns.deliver_of_acted hmem
  have hentries : _ = es := congrArg Prod.snd hdeliver
  rw [← hentries] at hmem
  exact (serves_of_stage hc ha hs hst).deliver hmem

/-! ## Runs -/

/-- What is told of a client fits how it answers. -/
structure Responds (reader : Address.Reader) (settings : Settings) (c : Client)
    (told : List Occurrence) : Prop where
  reader_eq : c.reader = reader
  remembers : Remembers settings c told
  attended : Attended c
  /-- A client whose endpoint cannot be used was never connected. -/
  unusable {fault : Endpoint.Fault} (h : Endpoint.read reader settings.endpoint = .error fault) :
    c.state = .idle
  acted {action : Action} {outcome : Outcome} (h : .logged (.acted action outcome) ∈ told) :
    outcome = action.answer

theorem acted_not_mem_callOccurrences (c : Client) (step : Step) (action : Action)
    (outcome : Outcome) : .logged (.acted action outcome) ∉ c.callOccurrences step := by
  obtain ⟨words, hwords, htold⟩ := c.callOccurrences_cases step
  rw [htold]
  rcases hwords with rfl | rfl | rfl <;> cases c.attempt? step <;> simp

theorem acted_mem_turnOccurrences (ht : c.turn = some (c', es)) {action : Action}
    {outcome : Outcome} (h : .logged (.acted action outcome) ∈ c.turnOccurrences) :
    .acted action outcome ∈ es := by
  rw [turnOccurrences_of_turn ht] at h
  rcases c.intake? with _ | item <;> rcases c.parting_cases c' with hp | hp <;> simpa [hp] using h

/-- Where the settings are as they should be, the state and the endpoint decide. -/
theorem connect_of_check (h : c.settings.check = .ok ()) :
    (c.connect .application).2.1 =
      if c.state.isLive then .refused .alreadyConnected
      else
        match Endpoint.parse c.reader c.settings.endpoint with
        | .error error => .refused error
        | .ok _ => .ok := by
  have hrefusal : c.refusal? .application =
      if c.state.isLive then some .alreadyConnected else none := by
    rw [refusal?_application, h]
  rcases c.connect_cases with ⟨endpoint, hr, hp, heq⟩ | ⟨error, hr, heq⟩ | ⟨error, hr, hp, heq⟩
  · rw [heq, (refusal?_eq_none.1 hr).2, hp]
    rfl
  · rw [hr] at hrefusal
    rw [heq]
    split at hrefusal
    · next hlive => rw [if_pos hlive, Option.some.inj hrefusal]
    · cases hrefusal
  · rw [heq, (refusal?_eq_none.1 hr).2, hp]
    rfl

theorem connect_ne_ok {fault : Endpoint.Fault}
    (h : Endpoint.read c.reader c.settings.endpoint = .error fault) :
    (c.connect .application).2.1 ≠ .ok := by
  rcases c.connect_cases with ⟨endpoint, -, hp, -⟩ | ⟨error, -, heq⟩ | ⟨error, -, -, heq⟩
  · rw [Endpoint.parse, h] at hp
    cases hp
  · rw [heq]
    exact nofun
  · rw [heq]
    exact nofun

namespace Responds

variable {reader : Address.Reader}

theorem new (reader : Address.Reader) (settings : Settings) :
    Responds reader settings (.new reader settings) [] :=
  ⟨rfl, ⟨.new reader settings, iff_of_true rfl List.not_mem_nil⟩, .of_none rfl, fun _ => rfl,
    fun h => absurd h List.not_mem_nil⟩

/-- Where the endpoint cannot be used, there is no session that could be taken down. -/
theorem session_eq_none (h : Responds reader settings c told) {error : Error}
    (hp : Endpoint.parse c.reader c.settings.endpoint = .error error) : c.session = none := by
  rw [h.reader_eq, h.remembers.coherent.settings_eq, Endpoint.parse] at hp
  split at hp
  · cases hp
  · next fault hfault => exact h.remembers.coherent.session_of_idle (h.unusable hfault)

theorem apply (h : Responds reader settings c told) (step : Step) :
    Responds reader settings (c.apply step).1 (told ++ c.callOccurrences step) := by
  refine ⟨(c.reader_apply step).trans h.reader_eq, h.remembers.apply step, h.attended.apply step,
    fun hfault => ?_, fun hmem => ?_⟩
  · refine (h.remembers.coherent.state_apply_eq_idle_iff step).2 ⟨h.unusable hfault, ?_⟩
    rintro ⟨rfl, hok⟩
    rw [apply_connect] at hok
    rw [← h.reader_eq, ← h.remembers.coherent.settings_eq] at hfault
    exact connect_ne_ok hfault (Reply.called.inj hok).symm
  · rcases List.mem_append.1 hmem with hmem | hmem
    · exact h.acted hmem
    · exact absurd hmem (acted_not_mem_callOccurrences c step _ _)

theorem turn (h : Responds reader settings c told) (ht : c.turn = some (c', es)) :
    Responds reader settings c' (told ++ c.turnOccurrences) := by
  refine ⟨(reader_turn ht).trans h.reader_eq, h.remembers.turn ht, h.attended.turn ht,
    fun hfault => ?_, fun hmem => ?_⟩
  · exact absurd (h.unusable hfault) (h.remembers.coherent.state_ne_idle_of_turn ht).1
  · rcases List.mem_append.1 hmem with hmem | hmem
    · exact h.acted hmem
    · exact acted_turn h.remembers.coherent h.attended ht (acted_mem_turnOccurrences ht hmem)

end Responds

theorem responds_chronicle (reader : Address.Reader) (settings : Settings) (moves : List Move) :
    ∃ c, Responds reader settings c (chronicle reader settings moves).2 ∧
      ∀ c' ∈ (chronicle reader settings moves).1, c' = c :=
  chronicle_invariant (Responds reader settings) (fun step h => h.apply step)
    (fun h ht => h.turn ht) (.new reader settings) moves

theorem exists_session_of_broken (h : c.phase = .broken) :
    ∃ s, c.session = some s ∧ s.stage = .panicked := by
  rcases hs : c.session with _ | s
  · rcases phase_of_none hs with hp | hp <;> cases hp.symm.trans h
  · rw [phase_of_session hs rfl] at h
    exact ⟨s, rfl, Stage.phase_eq_broken.1 h⟩

/-- How a client answers calls, and what a refusal leaves. -/
structure Answers (reader : Address.Reader) (settings : Settings) (c : Client)
    (told : List Occurrence) : Prop where
  /-- Joining, leaving and sending -/
  submit (e : Envelope) : (c.submit e).2 = if c.Takes then .ok else .refused .notConnected
  submitAll (es : List Envelope) :
    (c.submitAll es).2 = es.map fun _ => if c.Takes then .ok else .refused .notConnected
  /-- When a client connects, its settings are looked at first, -/
  invalid {fault : Settings.Fault} (hf : settings.fault? = some fault) :
    (c.connect .application).2.1 = .refused fault.toError ∧
      fault.toError.code = "INVALID_CONFIG"
  /-- then its state, -/
  live (hf : settings.fault? = none) (hl : c.state.isLive = true) :
    (c.connect .application).2.1 = .refused .alreadyConnected
  /-- and then its endpoint. If that cannot be used, no attempt was ever begun, so that there is no
  session that the refusal could change. -/
  unusable {fault : Endpoint.Fault} (hf : settings.fault? = none) (hl : c.state.isLive = false)
      (he : Endpoint.read reader settings.endpoint = .error fault) :
    (c.connect .application).2.1 = .refused fault.toError ∧ fault.toError.code = "TRANSPORT" ∧
      .made .connect (.called .ok) ∉ told ∧ c.session = none
  begins {endpoint : Endpoint} (hf : settings.fault? = none) (hl : c.state.isLive = false)
      (he : Endpoint.read reader settings.endpoint = .ok endpoint) :
    (c.connect .application).2.1 = .ok
  /-- After the callback broke down, and until the session is taken down, the client is connected
  and takes nothing. -/
  broken (h : isBroken (chapters told).current = true) : c.state.isLive = true ∧ ¬c.Takes
  /-- A call that is refused has no effect, -/
  unchanged {step : Step} (h : (c.apply step).2.1.isRefused = true) :
    c.apply step = (c, (c.apply step).2.1, [])
  /-- and the service has nothing to do about it. -/
  silent {step : Step} (h : (c.apply step).2.1.isRefused = true) (ht : c.turn = none) :
    c.perform step = (some c, ⟨(c.apply step).2.1, some c.state, []⟩)
  /-- Whatever a callback ever did was answered like this. -/
  acted {action : Action} {outcome : Outcome} (h : .logged (.acted action outcome) ∈ told) :
    outcome = action.answer

theorem Responds.answers {reader : Address.Reader} (h : Responds reader settings c told)
    (hf : Follows settings c told) : Answers reader settings c told := by
  have hnone : ∀ error, Endpoint.parse c.reader c.settings.endpoint = .error error →
      c.session = none := fun error => h.session_eq_none
  obtain ⟨hreader, ⟨hc, hidle⟩, ha, hunusable, hacted⟩ := h
  have hset := hc.settings_eq
  have hcheck : settings.fault? = none → c.settings.check = .ok () := by
    intro hfault
    rw [hset, Settings.check, hfault]
  refine ⟨fun e => ?_, fun es => ?_, fun {fault} hfault => ?_, fun hfault hl => ?_,
    fun {fault} hfault hl he => ?_, fun hfault hl he => ?_, fun hbroken => ?_,
    fun hr => apply_of_isRefused hc ha hnone hr, fun {step} hr ht => ?_, hacted⟩
  · split
    · next htakes => exact submit_of_takes hc ha htakes e
    · next htakes => rw [submit_of_not_takes hc ha htakes e]
  · split
    · next htakes => exact submitAll_of_takes hc ha htakes es
    · next htakes => rw [submitAll_of_not_takes hc ha htakes es]
  · have hrefusal : c.refusal? .application = some fault.toError := by
      rw [refusal?_application, hset, Settings.check, hfault]
    rw [connect, hrefusal]
    cases fault <;> exact ⟨rfl, rfl⟩
  · rw [connect_of_check (hcheck hfault), if_pos hl]
  · have hst := hunusable he
    rw [connect_of_check (hcheck hfault), hreader, hset, hl, Endpoint.parse, he]
    refine ⟨rfl, ?_, hidle.1 hst, hc.session_of_idle hst⟩
    cases fault <;> rfl
  · rw [connect_of_check (hcheck hfault), hreader, hset, hl, Endpoint.parse, he]
    rfl
  · have hphase := (hf.current.isBroken_iff_of_steady c.phase_steady).1 hbroken
    obtain ⟨s, hs, hst⟩ := exists_session_of_broken hphase
    refine ⟨?_, fun htakes => htakes.2 (stage?_of_session hs hst)⟩
    rw [hc.state_eq hs hst]
    rfl
  · have happly := apply_of_isRefused hc ha hnone hr
    refine perform_of_turn_eq_none happly ht ?_
    rintro rfl
    cases hr

/-- After whatever moves, calls succeed exactly when they may, and those that are refused change
nothing; neither do the actions that a callback is refused. -/
theorem answers_chronicle {reader : Address.Reader} {moves : List Move}
    (h : (chronicle reader settings moves).1 = some c) :
    Answers reader settings c (chronicle reader settings moves).2 ∧
      ∀ (c' : Client) (e : Event) (action : Action), (c'.act e action).2.isRefused = true →
        (c'.act e action).1 = c' := by
  obtain ⟨c₁, hr, h₁⟩ := responds_chronicle reader settings moves
  obtain ⟨c₂, hf, h₂⟩ := follows_chronicle reader settings moves
  obtain rfl := h₁ c h
  obtain rfl := h₂ c h
  exact ⟨hr.answers hf, fun c' e action => act_of_isRefused⟩

/-- A callback that closes the client still sends, and then breaks down; the client is connected
then, and takes nothing. -/
theorem answers_chronicle_panicked :
    let settings : Settings := ⟨"ws://[::1]", none, 0⟩
    let frame := "\x7b\"type\":\"event\",\"event\":\"message\",\"data\":\x7b" ++
      "\"room\":\"r\",\"user\":\"u\",\"text\":\"t\"\x7d\x7d"
    let moves : List Move := [.call (.setCallback ⟨"f", [.close, .connect, .echo, .panic]⟩),
      .call .connect, .turn, .call (.push (.text frame)), .turn]
    ∃ c, (chronicle .loopback settings moves).1 = some c ∧ c.state = .active ∧ c.HasPanicked ∧
      Answers .loopback settings c (chronicle .loopback settings moves).2 ∧
      (c.submit (.join "a")).2 = .refused .notConnected := by
  intro settings frame moves
  have hstage : (chronicle .loopback settings moves).1.map stage? = some (some .panicked) := by
    decide +kernel
  obtain ⟨c, hc, hpanicked⟩ := Option.map_eq_some_iff.1 hstage
  obtain ⟨hanswers, -⟩ := answers_chronicle hc
  refine ⟨c, hc, ?_, hpanicked, hanswers, ?_⟩
  · have hstate : (chronicle .loopback settings moves).1.map (·.state) = some .active := by
      decide +kernel
    rw [hc] at hstate
    exact Option.some.inj hstate
  · rw [hanswers.submit, if_neg fun htakes => htakes.2 hpanicked]

end Client

end ChatLink
