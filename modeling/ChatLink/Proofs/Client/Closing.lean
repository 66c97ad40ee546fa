import ChatLink.Proofs.Client.Standing
import ChatLink.Proofs.Client.Waiting

/-!
# Closing a client

A client can be closed wherever its service stands, and the call does return : a service that is
asked to stop is gone after a number of turns that is known beforehand, also where its transport
does not take the closing, and one that broke down takes none (`Client.Closes.returns`). Nothing is
left of the session then, and a client without a session is down until an attempt begins
(`Client.IsDown`) : nobody is at work for it, no transport is open, no call but one to connect has
an effect, and none is logged.

`Client.closes_chronicle` says so of every client that made any moves, in whatever order calls and
turns came. That the client stays down is an invariant of all further moves in which no attempt
begins (`Client.isDown_of_recounted`).
-/

namespace ChatLink.Client

variable {settings : Settings} {c c' : Client} {told : List Occurrence} {es : List Entry}
  {state : Lifecycle}

/-! ## Clients without a session -/

theorem submit_of_none (hs : c.session = none) (e : Envelope) :
    c.submit e = (c, .refused .notConnected) := by
  rcases c.submit_cases e with ⟨s, hs', -, -, -⟩ | ⟨-, heq⟩
  · cases hs.symm.trans hs'
  · exact heq

theorem submitAll_of_none (hs : c.session = none) :
    ∀ es : List Envelope, c.submitAll es = (c, es.map fun _ => .refused .notConnected)
  | [] => rfl
  | e :: es => by
    rw [submitAll, submit_of_none hs]
    dsimp only
    rw [submitAll_of_none hs es]
    rfl

theorem push_of_none (hs : c.session = none) (item : Item) : c.push item = (c, false) := by
  rw [push, hs]

theorem expire_of_none (hs : c.session = none) : c.expire = c := by
  rcases c.expire_cases with ⟨s, hs', -⟩ | heq
  · cases hs.symm.trans hs'
  · exact heq

theorem isServed_of_session_eq_none (hs : c.session = none) : c.isServed = false :=
  isServed_of_none (congrArg (Option.map _) hs)

/-- An attempt begins, or the step changes nothing about the session and the state, and nothing
comes of it. -/
theorem apply_of_none (hs : c.session = none) (step : Step) :
    (.connect = step ∧ .called .ok = (c.apply step).2.1) ∨
      ((c.apply step).1.session = none ∧ (c.apply step).1.state = c.state ∧
        (c.apply step).2.2 = []) := by
  cases step with
  | connect =>
    rw [apply_connect]
    rcases c.connect_cases with ⟨endpoint, -, -, heq⟩ | ⟨error, -, heq⟩ | ⟨error, -, -, heq⟩
    · exact .inl ⟨rfl, by rw [heq]⟩
    · exact .inr (by rw [heq]; exact ⟨hs, rfl, rfl⟩)
    · exact .inr (by rw [heq, reap_of_none hs]; exact ⟨hs, rfl, rfl⟩)
  | expire =>
    rw [apply_expire, expire_of_none hs]
    exact .inr ⟨hs, rfl, rfl⟩
  | submit e =>
    rw [apply_submit, submit_of_none hs]
    exact .inr ⟨hs, rfl, rfl⟩
  | submitAll es =>
    rw [apply_submitAll, submitAll_of_none hs]
    exact .inr ⟨hs, rfl, rfl⟩
  | push item =>
    rw [apply_push, push_of_none hs]
    exact .inr ⟨hs, rfl, rfl⟩
  | close =>
    rw [apply_close, close_of_none hs]
    exact .inr ⟨hs, rfl, rfl⟩
  | drop =>
    rw [apply_drop, close_of_none hs]
    exact .inr ⟨hs, rfl, rfl⟩
  | release | configure _ | setCallback _ | clearCallback | observe | describe | settings =>
    exact .inr ⟨hs, rfl, rfl⟩

/-- Where there is no session and no attempt begins, there is nothing to tell of a call but that it
was answered. -/
theorem callOccurrences_of_none (hs : c.session = none) {step : Step}
    (hentries : (c.apply step).2.2 = []) :
    c.callOccurrences step = [.made step (c.apply step).2.1] := by
  have hattempt : c.attempt? step = none := by
    rw [apply_entries, List.append_eq_nil_iff] at hentries
    simpa using hentries.2
  obtain ⟨told, hutters⟩ := c.lastWords_apply hattempt
  have hrest := hutters.rest
  rw [lastWords_of_none hs, List.append_eq_nil_iff] at hrest
  rw [hutters.call, hrest.1]

/-- Nothing happens through the client, which shows this state. -/
structure IsDown (state : Lifecycle) (c : Client) : Prop where
  state_eq : c.state = state
  /-- Nobody is at work, -/
  isServed : c.isServed = false
  turn : c.turn = none
  /-- no transport is open, so that the server cannot send anything, -/
  transport : ∀ stage ∈ c.stage?, stage.inbox? = none
  push (item : Item) : c.push item = (c, false)
  /-- and whatever needs a session is refused. -/
  submit (e : Envelope) : c.submit e = (c, .refused .notConnected)
  submitAll (es : List Envelope) : c.submitAll es = (c, es.map fun _ => .refused .notConnected)
  /-- To close the client once more is granted, and comes to nothing. -/
  close : c.perform .close = (some c, ⟨.called .ok, some state, []⟩)
  drop : c.perform .drop = (none, ⟨.nothing, none, []⟩)

theorem perform_drop_of_none (hs : c.session = none) :
    c.perform .drop = (none, ⟨.nothing, none, []⟩) := by
  rw [perform, apply_drop, close_of_none hs]
  dsimp only
  rw [settle_of_turn_eq_none (turn_of_none hs)]
  rfl

theorem isDown_of_none (hs : c.session = none) (hst : c.state = state) : c.IsDown state where
  state_eq := hst
  isServed := isServed_of_session_eq_none hs
  turn := turn_of_none hs
  transport := by
    intro stage hstage
    rw [stage?, hs] at hstage
    cases hstage
  push := push_of_none hs
  submit := submit_of_none hs
  submitAll := submitAll_of_none hs
  close := by
    have happly : c.apply .close = (c, .called .ok, []) := by rw [apply_close, close_of_none hs]
    rw [← hst]
    exact perform_of_turn_eq_none happly (turn_of_none hs) (fun h => by cases h)
  drop := perform_drop_of_none hs

/-- An attempt began, or the client has no session and this state, and there was nothing to tell but
steps with their answers. -/
def Stays (state : Lifecycle) (c : Client) (told : List Occurrence) : Prop :=
  .made .connect (.called .ok) ∈ told ∨
    (c.session = none ∧ c.state = state ∧ ∀ o ∈ told, o.isStep = true)

theorem Stays.apply (h : Stays state c told) (step : Step) :
    Stays state (c.apply step).1 (told ++ c.callOccurrences step) := by
  rcases h with hmade | ⟨hs, hst, hsteps⟩
  · exact .inl (List.mem_append_left _ hmade)
  rcases apply_of_none hs step with hbegins | ⟨hs', hst', hentries⟩
  · exact .inl (List.mem_append_right _ (made_mem_callOccurrences.2 hbegins))
  · refine .inr ⟨hs', hst'.trans hst, List.forall_mem_append.2 ⟨hsteps, ?_⟩⟩
    rw [callOccurrences_of_none hs hentries]
    simp [Occurrence.isStep]

theorem Stays.turn (h : Stays state c told) (ht : c.turn = some (c', es)) :
    Stays state c' (told ++ c.turnOccurrences) := by
  rcases h with hmade | ⟨hs, -, -⟩
  · exact .inl (List.mem_append_left _ hmade)
  · rw [turn_of_none hs] at ht
    cases ht

/-- As long as no attempt begins, a client without a session stays as it is, and of all that happens
to it there is nothing to tell but the steps with their answers. -/
theorem isDown_of_recounted (hs : c.session = none) (later : List Move)
    (hlater : .made .connect (.called .ok) ∉ (later.foldl recounted (some c, [])).2) :
    (∀ o ∈ (later.foldl recounted (some c, [])).2, o.isStep = true) ∧
      ∀ c' ∈ (later.foldl recounted (some c, [])).1, c'.IsDown c.state := by
  have hnew : Stays c.state c [] := .inr ⟨hs, rfl, fun o ho => absurd ho List.not_mem_nil⟩
  obtain ⟨c', hc', hclient⟩ := recounted_invariant (Stays c.state) (fun step h => h.apply step)
    (fun h ht => h.turn ht) hnew later
  obtain ⟨hs', hst', hsteps⟩ := hc'.resolve_left hlater
  refine ⟨hsteps, fun c₁ hc₁ => ?_⟩
  rw [hclient c₁ hc₁]
  exact isDown_of_none hs' hst'

/-! ## The call to close -/

theorem state_close_of_session {s : Session} (hs : c.session = some s) :
    (c.close .application).1.state = .closed := by
  rw [close_of_session hs]
  rfl

theorem perform_close (c : Client) :
    c.perform .close = (some (c.close .application).1,
      ⟨.called .ok, some (c.close .application).1.state, (c.close .application).2⟩) :=
  perform_of_turn_eq_none c.apply_close (turn_of_none c.session_close) nofun

theorem perform_drop (c : Client) :
    c.perform .drop = (none, ⟨.nothing, none, (c.close .application).2⟩) := by
  rw [perform, apply_drop]
  dsimp only
  rw [settle_of_turn_eq_none (turn_of_none c.session_close), List.append_nil]

/-- Whoever closes a client waits for its transport, but sees nothing of how it took that. -/
theorem close_withPeer (c : Client) (peer : Peer) :
    ({ c with peer := peer } : Client).close .application =
      ({ (c.close .application).1 with peer := peer }, (c.close .application).2) := by
  obtain ⟨settings, reader, peer', state, callback, session, serviceThread, threads⟩ := c
  cases session with
  | none => rw [close_of_none rfl, close_of_none rfl]
  | some s =>
    rw [close_of_session rfl, close_of_session rfl]
    rfl

theorem Coherent.state_close (h : Coherent settings c) :
    (c.close .application).1.state = if c.state = .idle then .idle else .closed := by
  rcases hs : c.session with _ | s
  · rw [close_of_none hs]
    rcases h.state_of_none hs with hst | hst <;> rw [hst] <;> rfl
  · have hlive : c.state ≠ .idle := by
      intro hst
      cases hs.symm.trans (h.session_of_idle hst)
    rw [state_close_of_session hs, if_neg hlive]

/-- The transport is closed if the log shows that it is open. -/
theorem Follows.close_log (h : Follows settings c told) :
    (c.close .application).2 = if isOpen (chapters told).current then [.close] else [] := by
  rw [h.current.isOpen_eq, isOpen_phase]
  rcases hs : c.session with _ | s
  · rw [close_of_none hs, stage?, hs]
    rfl
  · rw [close_of_session hs, partingEntries]

/-- Where there is no session, nobody is at work and no transport is open on any connection. -/
theorem Follows.atRest (h : Follows settings c told) (hs : c.session = none) :
    ∀ chapter ∈ (chapters told).all, isRunning chapter = false ∧ isOpen chapter = false := by
  intro chapter hchapter
  rcases List.mem_append.1 hchapter with hchapter | hchapter
  · exact Course.atRest (h.past chapter hchapter)
  · rw [List.mem_singleton.1 hchapter]
    have hcurrent := h.current
    rcases phase_of_none hs with hp | hp <;> rw [hp] at hcurrent
    · exact Course.atRest (.inl hcurrent)
    · exact Course.atRest (.inr hcurrent)

/-! ## Runs -/

/-- What it comes to if the client is closed now. -/
structure Closes (c : Client) (told : List Occurrence) : Prop where
  /-- The service that is asked to stop is gone after so many turns, however its transport takes
  the closing, so that waiting for it comes to an end. -/
  returns :
    let halted := ({ c with state := .closing } : Client).halt
    halted.takeTurns (Service.closeGrace + 3) = halted.settle.1 ∧
      halted.settle.1.isServed = false
  /-- The call is granted. -/
  granted :
    c.perform .close = (some (c.close .application).1,
      ⟨.called .ok, some (c.close .application).1.state, (c.close .application).2⟩)
  log : (c.close .application).2 = if isOpen (chapters told).current then [.close] else []
  closed : (c.close .application).1.state = .closed ↔ .made .connect (.called .ok) ∈ told
  idle : (c.close .application).1.state = .idle ↔ .made .connect (.called .ok) ∉ told
  /-- No service is left on any connection, and no open transport. -/
  atRest : ∀ chapter ∈ (chapters (told ++ c.callOccurrences .close)).all,
    isRunning chapter = false ∧ isOpen chapter = false
  /-- The client is down, and stays so until an attempt to connect begins. -/
  final {later : List Move}
      (h : .made .connect (.called .ok) ∉
        (later.foldl recounted (some (c.close .application).1, [])).2) :
    (∀ o ∈ (later.foldl recounted (some (c.close .application).1, [])).2, o.isStep = true) ∧
      ∀ c' ∈ (later.foldl recounted (some (c.close .application).1, [])).1,
        c'.IsDown (c.close .application).1.state
  /-- A client that is given up shows the same log. -/
  drop : c.perform .drop = (none, ⟨.nothing, none, (c.perform .close).2.log⟩)
  /-- The server has no say in this : whether it lets nobody in, reads nothing, or takes the closing
  of a transport badly, all that changes is how long the call takes. -/
  peerless (peer : Peer) :
    ({ c with peer := peer } : Client).perform .close =
      (some { (c.close .application).1 with peer := peer }, (c.perform .close).2)

theorem Follows.closes (h : Follows settings c told) (hr : Remembers settings c told)
    (hp : IsPatient c)
    (hclosed : Follows settings (c.close .application).1 (told ++ c.callOccurrences .close)) :
    c.Closes told := by
  have hstate := h.coherent.state_close
  have hpatient : IsPatient { c with state := .closing } := hp
  refine ⟨⟨hpatient.takeTurns_halt, isServed_settle_halt _⟩, c.perform_close, h.close_log, ?_, ?_,
    hclosed.atRest c.session_close, fun {later} => isDown_of_recounted c.session_close later,
    ?_, fun peer => ?_⟩
  · rw [← not_iff_not, ← hr.idle, hstate]
    split <;> simp_all
  · rw [← hr.idle, hstate]
    split <;> simp_all
  · rw [c.perform_drop, c.perform_close]
  · rw [perform_close, close_withPeer, c.perform_close]

/-- After whatever moves, closing the client is granted and final. -/
theorem closes_chronicle {reader : Address.Reader} {moves : List Move}
    (h : (chronicle reader settings moves).1 = some c) :
    c.Closes (chronicle reader settings moves).2 := by
  obtain ⟨c₁, hf, h₁⟩ := follows_chronicle reader settings moves
  obtain ⟨c₂, hr, h₂⟩ := remembers_chronicle reader settings moves
  obtain ⟨c₃, hp, h₃⟩ := isPatient_chronicle reader settings moves
  obtain rfl := h₁ c h
  obtain rfl := h₂ c h
  obtain rfl := h₃ c h
  obtain ⟨c₄, hclosed, h₄⟩ := follows_chronicle reader settings (moves ++ [.call .close])
  rw [chronicle_snoc, recounted, h] at hclosed h₄
  obtain rfl := h₄ _ rfl
  exact hf.closes hr hp hclosed

/-- A greeting that waits to be written to a server that will not take the closing either. -/
theorem closes_chronicle_greeting :
    let settings : Settings := ⟨"ws://[::1]", none, 0⟩
    let moves : List Move := [.call (.configure ⟨none, none, some true, none, none, some true⟩),
      .call .connect, .turn, .call (.submit (.join "a"))]
    ∃ c, (chronicle .loopback settings moves).1 = some c ∧ c.stage? = some (.greeting []) ∧
      c.peer.farewell = .hangs ∧ c.Closes (chronicle .loopback settings moves).2 ∧
        (c.close .application).1.IsDown .closed := by
  intro settings moves
  have hstage : (chronicle .loopback settings moves).1.map (fun c => (c.stage?, c.peer.farewell)) =
      some (some (.greeting []), .hangs) := by
    decide +kernel
  obtain ⟨c, hc, hgreeting⟩ := Option.map_eq_some_iff.1 hstage
  obtain ⟨hgreeting, hfarewell⟩ := Prod.mk.inj hgreeting
  have hcloses := closes_chronicle hc
  obtain ⟨s, hs, -⟩ := Option.map_eq_some_iff.1 hgreeting
  have hdown : ∀ c' ∈ (([] : List Move).foldl recounted (some (c.close .application).1, [])).1,
      c'.IsDown (c.close .application).1.state := (hcloses.final List.not_mem_nil).2
  rw [state_close_of_session hs] at hdown
  exact ⟨c, hc, hgreeting, hfarewell, hcloses, hdown _ rfl⟩

end ChatLink.Client
