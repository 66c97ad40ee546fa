import ChatLink.Proofs.Client.Recasting

/-!
# After a session

Nothing of a session outlives it. `Client.run_append_of_closed` : after a script that leaves a
client closed, however its session ended, every further script shows what it would show of a client
that was never connected, with the same settings, callback and server, but that closed is told in
place of idle (`Report.lapsed`).

A closed client is not a new one. Its last session is still there, unless somebody took it down, and
with it an outbox that may hold what was never sent, a request to stop, and the thread of a service
that nobody has waited for (`Client.IsOver`). No step but one to connect or to close has anything to
do with these things, and the first attempt that begins leaves nothing of them
(`Client.apply_of_isOver`) but the number of its thread. From then on the two clients differ in no
more than that (`Client.Renews`).
-/

namespace ChatLink

/-! ## Closed in place of idle -/

/-- The reply of a closed client, where an idle one with these settings gives this one. -/
def Reply.lapsed (settings : Settings) : Reply → Reply
  | description _ => .description (Client.description settings .closed)
  | reply => reply

/-- The report with closed in place of idle. -/
def Report.lapsed (settings : Settings) (r : Report) : Report :=
  if r.state = some .idle then ⟨r.reply.lapsed settings, some .closed, r.log⟩ else r

theorem Report.lapsed_of_ne {r : Report} (h : r.state ≠ some .idle) (settings : Settings) :
    r.lapsed settings = r :=
  if_neg h

namespace Client

/-- A client that was never connected, with the settings, the callback and the server of this
one. -/
def renewed (c : Client) : Client :=
  { new c.reader c.settings with peer := c.peer, callback := c.callback }

/-- The client that is left after a script. -/
def after (c : Option Client) (script : List Step) : Option Client :=
  script.foldl (fun c step => (advance c step).1) c

variable {settings : Settings} {c c' : Client} {client client' : Option Client}

/-! ## What is left of a session -/

/-- The client is closed, and the service of its last session, if that is still there, has ended. -/
structure IsOver (settings : Settings) (c : Client) : Prop where
  settings_eq : c.settings = settings
  state_eq : c.state = .closed
  ended : ∀ s ∈ c.session, s.stage = .ended

namespace IsOver

/-- A closed client whose service can do nothing more. -/
theorem of_coherent (h : Coherent settings c) (hst : c.state = .closed) (ht : c.turn = none) :
    IsOver settings c := by
  refine ⟨h.settings_eq, hst, fun s hs => ?_⟩
  have hs : c.session = some s := hs
  have hstate := h.state_of_session hs
  rw [hst] at hstate
  rw [turn_of_session hs, turnOf] at ht
  cases hstage : s.stage with
  | ended => rfl
  | leaving inbox =>
    rw [hstage] at ht
    cases inbox <;> cases ht
  | parting farewell grace =>
    rw [hstage] at ht
    cases ht
  | held | greeting _ | serving _ _ | panicked =>
    rw [hstage] at hstate
    cases hstate

theorem turn_eq_none (h : IsOver settings c) : c.turn = none := by
  rcases hs : c.session with _ | s
  · exact turn_of_none hs
  · exact turn_of_done hs (by rw [h.ended s hs]; rfl)

theorem partingEntries_eq (h : IsOver settings c) : c.partingEntries = [] := by
  rcases hs : c.session with _ | s
  · exact partingEntries_of_none hs
  · rw [partingEntries_of_session hs, h.ended s hs]
    rfl

theorem refusal?_renewed (h : IsOver settings c) :
    c.renewed.refusal? .application = c.refusal? .application := by
  rw [refusal?_application, refusal?_application, h.state_eq]
  rfl

/-- The end of the last service is waited for, which takes no time. -/
theorem reap (h : IsOver settings c) :
    c.reap.2 = [] ∧ IsOver settings c.reap.1 ∧ c.reap.1.renewed = c.renewed := by
  rcases hs : c.session with _ | s
  · rw [reap_of_none hs]
    exact ⟨rfl, h, rfl⟩
  · rw [reap_of_session hs, h.ended s hs, h.partingEntries_eq]
    exact ⟨rfl, ⟨h.settings_eq, h.state_eq, fun s hs => absurd hs (Option.not_mem_none s)⟩, rfl⟩

theorem close (h : IsOver settings c) :
    (c.close .application).2 = [] ∧ IsOver settings (c.close .application).1 ∧
      (c.close .application).1.renewed = c.renewed := by
  rcases hs : c.session with _ | s
  · rw [close_of_none hs]
    exact ⟨rfl, h, rfl⟩
  · rw [close_of_session hs, h.partingEntries_eq]
    exact ⟨rfl, ⟨h.settings_eq, rfl, fun s hs => absurd hs (Option.not_mem_none s)⟩, rfl⟩

end IsOver

theorem submit_of_dead (h : c.state = .idle ∨ c.state = .closed) (e : Envelope) :
    c.submit e = (c, .refused .notConnected) := if_pos h

theorem submitAll_of_dead (h : c.state = .idle ∨ c.state = .closed) :
    ∀ es : List Envelope, c.submitAll es = (c, es.map fun _ => .refused .notConnected)
  | [] => rfl
  | e :: es => by
    rw [submitAll, submit_of_dead h]
    dsimp only
    rw [submitAll_of_dead h es]
    rfl

/-- Where nobody is at work, both clients begin an attempt, or both are refused for the same reason,
and nobody is at work afterwards. -/
theorem connect_of_isOver (h : IsOver settings c) :
    (∃ entries, c.connect .application = (c.begin, .ok, entries) ∧
        c.renewed.connect .application = (c.renewed.begin, .ok, entries)) ∨
      ∃ next error, IsOver settings next ∧
        c.connect .application = (next, .refused error, []) ∧
        c.renewed.connect .application = (next.renewed, .refused error, []) := by
  obtain ⟨hentries, hover, hsame⟩ := h.reap
  have hrenewed : c.renewed.reap = (c.renewed, []) := reap_of_none rfl
  rcases c.connect_cases with ⟨endpoint, hr, hp, heq⟩ | ⟨error, hr, heq⟩ | ⟨error, hr, hp, heq⟩
  · refine .inl ⟨[.connect endpoint.text], by rw [heq, hentries]; rfl, ?_⟩
    have hp' : Endpoint.parse c.renewed.reader c.renewed.settings.endpoint = .ok endpoint := hp
    simp only [connect, h.refusal?_renewed.trans hr, hrenewed, hp']
    rfl
  · refine .inr ⟨c, error, h, heq, ?_⟩
    simp only [connect, h.refusal?_renewed.trans hr]
  · refine .inr ⟨c.reap.1, error, hover, by rw [heq, hentries], ?_⟩
    have hp' : Endpoint.parse c.renewed.reader c.renewed.settings.endpoint = .error error := hp
    simp only [connect, h.refusal?_renewed.trans hr, hrenewed, hp', hsame]

/-- Where nobody is at work, a step begins an attempt in both clients, or it shows of the client
what it shows of the new one, with closed in place of idle, and leaves things so. -/
theorem apply_of_isOver (h : IsOver settings c) (step : Step) :
    (∃ reply entries, c.apply step = (c.begin, reply, entries) ∧
        c.renewed.apply step = (c.renewed.begin, reply, entries)) ∨
      ∃ next reply, IsOver settings next ∧ c.apply step = (next, reply.lapsed settings, []) ∧
        c.renewed.apply step = (next.renewed, reply, []) := by
  cases step with
  | connect =>
    rw [apply_connect, apply_connect]
    rcases connect_of_isOver h with ⟨entries, heq, heq'⟩ | ⟨next, error, hover, heq, heq'⟩
    · exact .inl ⟨.called .ok, entries, by rw [heq], by rw [heq']⟩
    · exact .inr ⟨next, .called (.refused error), hover, by rw [heq]; rfl, by rw [heq']⟩
  | expire =>
    have hexpire : c.expire = c := by
      rcases c.expire_cases with ⟨s, hs, hst, -, -⟩ | heq
      · cases hst.symm.trans (h.ended s hs)
      · exact heq
    exact .inr ⟨c, .nothing, h, by rw [apply_expire, hexpire]; rfl, rfl⟩
  | submit e =>
    refine .inr ⟨c, .called (.refused .notConnected), h, ?_, ?_⟩
    · rw [apply_submit, submit_of_dead (.inr h.state_eq)]
      rfl
    · rw [apply_submit, submit_of_dead (.inl rfl)]
  | submitAll es =>
    refine .inr ⟨c, .calledAll (es.map fun _ => .refused .notConnected), h, ?_, ?_⟩
    · rw [apply_submitAll, submitAll_of_dead (.inr h.state_eq)]
      rfl
    · rw [apply_submitAll, submitAll_of_dead (.inl rfl)]
  | push item =>
    have hpush : c.push item = (c, false) := by
      rcases c.push_cases item with ⟨s, stage, hs, hreceive, -⟩ | ⟨-, heq⟩
      · rw [h.ended s hs] at hreceive
        cases hreceive
      · exact heq
    exact .inr ⟨c, .pushed false, h, by rw [apply_push, hpush]; rfl, rfl⟩
  | close =>
    obtain ⟨hentries, hover, hsame⟩ := h.close
    refine .inr ⟨_, .called .ok, hover, by rw [apply_close, hentries]; rfl, ?_⟩
    rw [apply_close, close_of_none (c := c.renewed) rfl, hsame]
  | drop =>
    obtain ⟨hentries, hover, hsame⟩ := h.close
    refine .inr ⟨_, .nothing, hover, by rw [apply_drop, hentries]; rfl, ?_⟩
    rw [apply_drop, close_of_none (c := c.renewed) rfl, hsame]
  | describe =>
    refine .inr ⟨c, .description c.renewed.describe, h, ?_, rfl⟩
    have hdescribe : c.describe = description settings .closed := by
      rw [Client.describe, h.settings_eq, h.state_eq]
    rw [apply, hdescribe]
    rfl
  | observe | settings => exact .inr ⟨c, _, h, rfl, rfl⟩
  | release | configure _ | setCallback _ | clearCallback =>
    refine .inr ⟨_, .nothing, ?_, rfl, rfl⟩
    exact ⟨h.settings_eq, h.state_eq, h.ended⟩

/-! ## The two clients together -/

/-- The first client shows what the second one shows, but for closed in place of idle. -/
inductive Renews (settings : Settings) : Option Client → Option Client → Prop
  | dropped : Renews settings none none
  /-- No attempt began since, and there may be something left of the last one. -/
  | ended {c : Client} (h : IsOver settings c) : Renews settings (some c) (some c.renewed)
  /-- The threads of the first client have later numbers. -/
  | begun {c : Client} (h : Coherent settings c) (hst : c.state ≠ .idle) (earlier : Nat) :
    Renews settings (some (c.recast (fun _ => true) earlier)) (some c)

/-- An attempt that begins leaves nothing of the last one but the number of its thread. -/
theorem begin_eq_recast (c : Client) :
    c.begin = c.renewed.begin.recast (fun _ => true) c.threads := rfl

/-- Where the call of a step is the same but for the threads, the clients stay together. -/
theorem renews_perform {c₁ c₂ : Client} {step : Step} {earlier : Nat}
    (h : Coherent settings (c₂.apply step).1) (hst : (c₂.apply step).1.state ≠ .idle)
    (happly : c₁.apply step = recasted (fun _ => true) earlier (c₂.apply step)) :
    (c₁.perform step).2 = (c₂.perform step).2.lapsed settings ∧
      Renews settings (c₁.perform step).1 (c₂.perform step).1 := by
  have hnext : ∀ c ∈ (c₂.perform step).1, Coherent settings c ∧ c.state ≠ .idle := by
    intro c hc
    rw [(c₂.perform_eq step).2.2 c hc]
    exact ⟨h.settle, h.state_settle_ne_idle hst⟩
  have hstate : (c₂.perform step).2.state ≠ some .idle := by
    rw [state_perform]
    intro hidle
    obtain ⟨c, hc, hidle⟩ := Option.map_eq_some_iff.1 hidle
    exact (hnext c hc).2 hidle
  rw [perform_of_apply_recast (fun _ h => by cases h) happly, Report.lapsed_of_ne hstate]
  refine ⟨rfl, ?_⟩
  rcases hp : (c₂.perform step).1 with _ | c
  · exact .dropped
  · obtain ⟨hc, hne⟩ := hnext c hp
    exact .begun hc hne earlier

/-- A step shows of the first client what it shows of the second one, and leaves the two
together. -/
theorem renews_advance (h : Renews settings client client') (step : Step) :
    (advance client step).2 = (advance client' step).2.lapsed settings ∧
      Renews settings (advance client step).1 (advance client' step).1 := by
  cases h with
  | dropped => exact ⟨rfl, .dropped⟩
  | @begun c h hst earlier =>
    refine renews_perform (h.apply step) (fun hidle => hst ?_) (apply_recast (fun _ _ => rfl) c)
    exact ((h.state_apply_eq_idle_iff step).1 hidle).1
  | @ended c h =>
    rcases apply_of_isOver h step with ⟨reply, entries, hc, hrenewed⟩ |
      ⟨next, reply, hnext, hc, hrenewed⟩
    · have hbegun : c.apply step =
          recasted (fun _ => true) c.threads (c.renewed.apply step) := by
        rw [hc, hrenewed, begin_eq_recast]
        rfl
      refine renews_perform ?_ ?_ hbegun
      · rw [hrenewed]
        exact .begin h.settings_eq
      · rw [hrenewed]
        exact nofun
    · have hsettle : next.settle = (next, []) := settle_of_turn_eq_none hnext.turn_eq_none
      have hsettle' : next.renewed.settle = (next.renewed, []) := settle_of_turn_eq_none rfl
      have hstate := hnext.state_eq
      show (c.perform step).2 = (c.renewed.perform step).2.lapsed settings ∧
        Renews settings (c.perform step).1 (c.renewed.perform step).1
      unfold perform
      simp only [hc, hrenewed, hsettle, hsettle', hstate, List.append_nil]
      cases step with
      | drop =>
        rw [apply_drop] at hrenewed
        obtain rfl : Reply.nothing = reply := congrArg (·.2.1) hrenewed
        exact ⟨rfl, .dropped⟩
      | _ => exact ⟨rfl, .ended hnext⟩

/-! ## Scripts -/

theorem turn_after : ∀ {client : Option Client}, (∀ c ∈ client, c.turn = none) →
    ∀ script : List Step, ∀ c ∈ after client script, c.turn = none
  | _, h, [] => h
  | client, _, step :: script => turn_after (turn_advance client step) script

theorem coherent_advance (h : ∀ c ∈ client, Coherent settings c) (step : Step) :
    ∀ c ∈ (advance client step).1, Coherent settings c := by
  rcases client with _ | c
  · exact fun c hc => absurd hc (Option.not_mem_none c)
  · exact fun c' hc => (h c rfl).perform hc

theorem coherent_after : ∀ {client : Option Client}, (∀ c ∈ client, Coherent settings c) →
    ∀ script : List Step, ∀ c ∈ after client script, Coherent settings c
  | _, h, [] => h
  | _, h, step :: script => coherent_after (coherent_advance h step) script

theorem run_append : ∀ (client : Option Client) (h k : List Step),
    run client (h ++ k) = run client h ++ run (after client h) k
  | _, [], _ => rfl
  | client, step :: h, k => congrArg ((advance client step).2 :: ·) (run_append _ h k)

theorem run_of_renews : ∀ {client client' : Option Client}, Renews settings client client' →
    ∀ script : List Step, run client script = (run client' script).map (Report.lapsed settings)
  | _, _, _, [] => rfl
  | client, client', h, step :: script => by
    obtain ⟨hreport, hnext⟩ := renews_advance h step
    show (advance client step).2 :: run (advance client step).1 script = _
    rw [hreport, run_of_renews hnext script]
    rfl

/-- After a script that leaves a client closed, a further script shows what it shows of a client
that was never connected, with the same settings, callback and server, and with closed told in
place of idle. -/
theorem run_append_of_closed {reader : Address.Reader} {settings : Settings} {h : List Step}
    {c : Client} (hc : after (some (.new reader settings)) h = some c) (hst : c.state = .closed)
    (k : List Step) :
    run (some (.new reader settings)) (h ++ k) =
      run (some (.new reader settings)) h ++
        (run (some c.renewed) k).map (Report.lapsed settings) := by
  have hnew : ∀ c ∈ some (Client.new reader settings), Coherent settings c ∧ c.turn = none := by
    intro c hc
    obtain rfl := Option.some.inj hc
    exact ⟨.new reader settings, rfl⟩
  have hcoherent := coherent_after (fun c hc => (hnew c hc).1) h c hc
  have hsettled := turn_after (fun c hc => (hnew c hc).2) h c hc
  rw [run_append, hc, run_of_renews (.ended (.of_coherent hcoherent hst hsettled))]

/-- An attempt that runs out of time leaves an envelope unsent in a session that is still there, and
the next attempt does not send it. -/
theorem run_append_of_closed_expired :
    let settings : Settings := ⟨"ws://[::1]", some "t", 100⟩
    let h : List Step := [.configure ⟨some true, none, none, none, none, none⟩, .connect,
      .submit (.join "a"), .expire]
    let k : List Step := [.observe, .connect, .release, .close]
    ∃ c s, after (some (.new .loopback settings)) h = some c ∧ c.state = .closed ∧
      c.session = some s ∧ s.outbox.queue = [.join "a"] ∧
        run (some (.new .loopback settings)) (h ++ k) =
          run (some (.new .loopback settings)) h ++
            (run (some c.renewed) k).map (Report.lapsed settings) := by
  intro settings h k
  let gated : Client :=
    { new .loopback settings with peer := ⟨true, false, false, false, false, false, 0⟩ }
  let queued : Client := gated.begin.withSession ((Session.initial 0).withQueue [.join "a"])
  let s : Session := { (Session.initial 0).withQueue [.join "a"] with stage := .ended }
  obtain ⟨entries, hconnect⟩ := apply_connect_of_ok (c := gated) (by decide +kernel)
  have hgated : (advance (some (.new .loopback settings))
      (.configure ⟨some true, none, none, none, none, none⟩)).1 = some gated :=
    advance_of_turn_eq_none rfl rfl nofun
  have hheld : (advance (some gated) .connect).1 = some gated.begin :=
    advance_of_turn_eq_none hconnect rfl nofun
  have hqueued : (advance (some gated.begin) (.submit (.join "a"))).1 = some queued :=
    advance_of_turn_eq_none rfl rfl nofun
  have hexpired : (advance (some queued) .expire).1 =
      some ({ queued with state := .closed }.withSession s) := by
    have hexpire : queued.expire =
        queued.leave ((Session.initial 0).withQueue [.join "a"]) none := rfl
    rw [advance_eq queued (show Step.expire ≠ .drop from nofun), apply_expire, hexpire,
      settle_of_leaving rfl rfl]
    rfl
  have hafter : after (some (.new .loopback settings)) h =
      some ({ queued with state := .closed }.withSession s) := by
    simp only [after, h, List.foldl_cons, List.foldl_nil, hgated, hheld, hqueued, hexpired]
  exact ⟨_, s, hafter, rfl, rfl, rfl, run_append_of_closed hafter rfl k⟩

end Client

end ChatLink
