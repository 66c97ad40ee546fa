import ChatLink.Proofs.Client.Ledger
import ChatLink.Proofs.Client.State

/-!
# What is written on a connection

Nothing is written on a connection, or the greeting and then the oldest of the envelopes that its
own session accepted, in the order in which they were accepted (`Account.Proper`). While a session
lasts, its account says more (`Account.Fits`) : what was accepted is what was sent, then the
envelope whose write waits, then what is in the outbox. `Tracks` is that of the current account
together with `Proper` of all the accounts before it. Every call and every turn preserve it, and
`Client.accounts_play` is what follows for all runs.
-/

namespace ChatLink

namespace Account

/-- Nothing is written, or the greeting and then the oldest of the accepted envelopes. -/
def Proper (token : Option String) (a : Account) : Prop :=
  a.written = [] ∨ ∃ sent, sent <+: a.accepted ∧
    a.written = (Envelope.hello token).payload :: sent.map (·.payload)

/-- The greeting is written, and then all the accepted envelopes. -/
def Complete (token : Option String) (a : Account) : Prop :=
  a.written = (Envelope.hello token).payload :: a.accepted.map (·.payload)

/-- The greeting is written, and all the accepted envelopes but the last ones, which are given. -/
def Owes (token : Option String) (a : Account) (rest : List Envelope) : Prop :=
  ∃ sent, a.accepted = sent ++ rest ∧
    a.written = (Envelope.hello token).payload :: sent.map (·.payload)

/-- What the account of a session holds at each stage of its service, and what it still holds when
there is no service any more. -/
def Fits (token : Option String) (a : Account) : Option Session → Prop
  | none => a.Proper token
  | some s =>
    match s.stage with
    | .held | .greeting _ => a.accepted = s.outbox.queue ∧ a.written = []
    | .serving _ pending => a.Owes token (pending.toList ++ s.outbox.queue)
    | .leaving _ | .parting _ _ | .ended | .panicked => a.Proper token

variable {token : Option String} {a : Account}

theorem Owes.proper {rest : List Envelope} (h : a.Owes token rest) : a.Proper token := by
  obtain ⟨sent, ha, hw⟩ := h
  exact .inr ⟨sent, ⟨rest, ha.symm⟩, hw⟩

theorem Owes.complete (h : a.Owes token []) : a.Complete token := by
  obtain ⟨sent, ha, hw⟩ := h
  rw [Complete, hw, ha, List.append_nil]

theorem Fits.proper {session : Option Session} (h : a.Fits token session) : a.Proper token := by
  unfold Fits at h
  split at h
  · exact h
  · split at h
    · exact .inl h.2
    · exact .inl h.2
    · exact h.proper
    all_goals exact h

/-- One more accepted envelope leaves an account proper. -/
theorem Proper.accept (h : a.Proper token) (e : Envelope) :
    Proper token { a with accepted := a.accepted ++ [e] } := by
  rcases h with h | ⟨sent, hsent, h⟩
  · exact .inl h
  · exact .inr ⟨sent, hsent.trans (List.prefix_append _ _), h⟩

/-- An accepted envelope is in the outbox, behind all the others. -/
theorem Fits.accept {s : Session} (h : a.Fits token (some s)) (e : Envelope) :
    Fits token { a with accepted := a.accepted ++ [e] }
      (some (s.withQueue (s.outbox.queue ++ [e]))) := by
  obtain ⟨thread, stage, outbox, stopping⟩ := s
  cases stage with
  | held => exact ⟨congrArg (· ++ [e]) h.1, h.2⟩
  | greeting inbox => exact ⟨congrArg (· ++ [e]) h.1, h.2⟩
  | serving inbox pending =>
    obtain ⟨sent, ha, hw⟩ := h
    refine ⟨sent, ?_, hw⟩
    show a.accepted ++ [e] = _
    rw [ha, List.append_assoc, List.append_assoc]
    rfl
  | leaving _ | parting _ _ | ended | panicked => exact Proper.accept h e

end Account

namespace Client

/-- The ledger of a client with these settings is as its service left it. -/
structure Tracks (settings : Settings) (c : Client) (l : Ledger) : Prop where
  settings_eq : c.settings = settings
  past : ∀ a ∈ l.past, a.Proper settings.token
  current : l.current.Fits settings.token c.session
  /-- Nothing is accepted or written before the first attempt. -/
  first : (l.past = [] ∧ l.current = .empty ∧ c.session = none) ∨ l.past.head? = some .empty

namespace Tracks

variable {settings : Settings} {c c' : Client} {l l' : Ledger} {s : Session} {es : List Entry}

theorem new (reader : Address.Reader) (settings : Settings) :
    Tracks settings (.new reader settings) .initial :=
  ⟨rfl, fun _ h => absurd h List.not_mem_nil, .inl rfl, .inl ⟨rfl, rfl, rfl⟩⟩

/-- The account of a session that lasts changes with the client, and the others stay. -/
theorem update (h : Tracks settings c l) (hs : c.session = some s) (hset : c'.settings = c.settings)
    (hpast : l'.past = l.past) (hfits : l'.current.Fits settings.token c'.session) :
    Tracks settings c' l' := by
  refine ⟨hset.trans h.settings_eq, hpast ▸ h.past, hfits, .inr ?_⟩
  rcases h.first with ⟨-, -, hnone⟩ | hfirst
  · exact absurd (hs.symm.trans hnone) (Option.some_ne_none s)
  · rw [hpast, hfirst]

/-- The account of a service that leaves its loop is proper. -/
theorem leave (h : Tracks settings c l) (hs : c.session = some s) (inbox : Option (List Item)) :
    Tracks settings (c.leave s inbox) l :=
  h.update hs rfl rfl h.current.proper

/-- The account of a session that is taken down is proper. -/
theorem unsession (h : Tracks settings c l) (hset : c'.settings = c.settings)
    (hs : c'.session = none) : Tracks settings c' l := by
  refine ⟨hset.trans h.settings_eq, h.past, ?_, ?_⟩
  · rw [hs]
    exact h.current.proper
  · exact h.first.imp_left fun ⟨hpast, hcurrent, _⟩ => ⟨hpast, hcurrent, hs⟩

/-- The peer, the state and the callback of a client do not show in its ledger. -/
theorem congr (h : Tracks settings c l) (hset : c'.settings = c.settings)
    (hs : c'.session = c.session) (hpast : l'.past = l.past) (hcurrent : l'.current = l.current) :
    Tracks settings c' l' := by
  refine ⟨hset.trans h.settings_eq, hpast ▸ h.past, ?_, ?_⟩
  · rw [hcurrent, hs]
    exact h.current
  · rw [hpast, hcurrent, hs]
    exact h.first

theorem fits (h : Tracks settings c l) (hs : c.session = some s) :
    l.current.Fits settings.token (some s) :=
  hs ▸ h.current

theorem fits_held (h : Tracks settings c l) (hs : c.session = some s) (hst : s.stage = .held) :
    l.current.accepted = s.outbox.queue ∧ l.current.written = [] := by
  simpa only [Account.Fits, hst] using h.fits hs

theorem fits_greeting {inbox : List Item} (h : Tracks settings c l) (hs : c.session = some s)
    (hst : s.stage = .greeting inbox) :
    l.current.accepted = s.outbox.queue ∧ l.current.written = [] := by
  simpa only [Account.Fits, hst] using h.fits hs

theorem fits_serving {inbox : List Item} {pending : Option Envelope} (h : Tracks settings c l)
    (hs : c.session = some s) (hst : s.stage = .serving inbox pending) :
    l.current.Owes settings.token (pending.toList ++ s.outbox.queue) := by
  simpa only [Account.Fits, hst] using h.fits hs

theorem proper (h : Tracks settings c l) : ∀ a ∈ l.accounts, a.Proper settings.token := by
  intro a ha
  rcases List.mem_append.1 ha with ha | ha
  · exact h.past a ha
  · rw [List.mem_singleton.1 ha]
    exact h.current.proper

theorem head?_accounts (h : Tracks settings c l) : l.accounts.head? = some .empty := by
  rw [Ledger.accounts, List.head?_append]
  rcases h.first with ⟨hpast, hcurrent, -⟩ | hfirst
  · rw [hpast, hcurrent]
    rfl
  · rw [hfirst]
    rfl

/-! ## Calls -/

theorem submit (h : Tracks settings c l) (e : Envelope) :
    Tracks settings (c.submit e).1 (l.record e (c.submit e).2) := by
  rcases c.submit_cases e with ⟨s, hs, -, -, heq⟩ | ⟨-, heq⟩
  · rw [heq]
    exact h.update hs rfl rfl ((h.fits hs).accept e)
  · rw [heq]
    exact h

theorem submitAll : ∀ {c : Client} {l : Ledger}, Tracks settings c l → ∀ es : List Envelope,
    Tracks settings (c.submitAll es).1 (l.recordAll es (c.submitAll es).2)
  | _, _, h, [] => h
  | _, _, h, e :: es => submitAll (h.submit e) es

/-- The closing of a transport is no entry of the ledger. -/
theorem note_partingEntries (c : Client) (l : Ledger) : c.partingEntries.foldl .note l = l := by
  rcases c.partingEntries_cases with h | h <;> rw [h] <;> rfl

theorem note_reap (c : Client) (l : Ledger) : c.reap.2.foldl .note l = l := by
  rcases hs : c.session with _ | s
  · rw [reap_of_none hs]
    rfl
  · rw [reap_of_session hs]
    exact note_partingEntries c l

theorem reap (h : Tracks settings c l) : Tracks settings c.reap.1 l := by
  rcases hs : c.session with _ | s
  · rwa [reap_of_none hs]
  · rw [reap_of_session hs]
    cases s.stage.isLooping <;> exact h.unsession rfl rfl

/-- With an attempt the account before it is closed. -/
theorem connect (h : Tracks settings c l) :
    Tracks settings (c.connect .application).1
      ((c.connect .application).2.2.foldl .note l) := by
  rcases c.connect_cases with ⟨endpoint, -, -, heq⟩ | ⟨error, -, heq⟩ | ⟨error, -, -, heq⟩
  · rw [heq, List.foldl_append, note_reap]
    exact ⟨h.settings_eq, h.proper, ⟨rfl, rfl⟩, .inr h.head?_accounts⟩
  · rw [heq]
    exact h
  · rw [heq, note_reap]
    exact h.reap

theorem expire (h : Tracks settings c l) : Tracks settings c.expire l := by
  rcases c.expire_cases with ⟨s, hs, -, -, heq⟩ | heq
  · rw [heq]
    exact h.leave hs none
  · rw [heq]
    exact h

theorem push (h : Tracks settings c l) (item : Item) : Tracks settings (c.push item).1 l := by
  rcases c.push_cases item with ⟨s, stage, hs, hreceive, heq⟩ | ⟨-, heq⟩
  · rw [heq]
    rcases Stage.receive_cases hreceive with ⟨inbox, hst, rfl⟩ | ⟨inbox, pending, hst, rfl⟩ |
      ⟨inbox, -, rfl⟩
    · have hfits := h.fits_greeting hs hst
      exact h.update hs rfl rfl hfits
    · have hfits := h.fits_serving hs hst
      exact h.update hs rfl rfl hfits
    · exact h.update hs rfl rfl h.current.proper
  · rw [heq]
    exact h

theorem close (h : Tracks settings c l) :
    Tracks settings (c.close .application).1 ((c.close .application).2.foldl .note l) := by
  rcases hs : c.session with _ | s
  · rw [close_of_none hs]
    exact h
  · rw [close_of_session hs, note_partingEntries]
    exact h.unsession rfl rfl

/-! ## Callbacks -/

theorem requestStop (h : Tracks settings c l) : Tracks settings c.requestStop l := by
  rcases hs : c.session with _ | s
  · refine h.congr rfl ?_ rfl rfl
    rw [Client.requestStop, hs]
    rfl
  · have hfits := h.fits hs
    refine h.update hs rfl rfl ?_
    rw [Client.requestStop, hs]
    exact hfits

theorem crash (h : Tracks settings c l) : Tracks settings c.crash l := by
  rcases hs : c.session with _ | s
  · refine h.congr rfl ?_ rfl rfl
    rw [Client.crash, hs]
    rfl
  · refine h.update hs rfl rfl ?_
    rw [Client.crash, hs]
    exact h.current.proper

/-- An action that submits an envelope is recorded as any other submission. -/
theorem act {e : Event} (h : Tracks settings c l) (handling : l.handling = some e)
    (action : Action) :
    Tracks settings (c.act e action).1 (l.note (.acted action (c.act e action).2)) := by
  rw [Ledger.note_acted handling]
  cases action with
  | join room => exact h.submit _
  | leave room => exact h.submit _
  | send room text => exact h.submit _
  | echo => exact h.submit _
  | close =>
    rw [Client.act]
    split
    · exact h.requestStop
    · exact h
  | connect =>
    rw [Client.act]
    split <;> exact h
  | state => exact h
  | clearCallback => exact h.congr rfl rfl rfl rfl
  | setCallback name actions => exact h.congr rfl rfl rfl rfl
  | panic => exact h.crash

theorem deliver (h : Tracks settings c l) (frame : List UInt8) :
    Tracks settings (c.deliver frame).1 ((c.deliver frame).2.foldl .note l) := by
  unfold Client.deliver
  split
  · next e callback _ _ =>
    -- the event is noted before the first action, and every action is done for it
    have hinv := actAll_invariant Ledger.note
      (fun c l => Tracks settings c l ∧ l.handling = some e) e
      (fun action h => ⟨h.1.act h.2 action, (Ledger.handling_acted _ _ _).trans h.2⟩)
      callback.actions (c := c) (o := l.note (.event callback.name e))
      ⟨h.congr rfl rfl rfl rfl, rfl⟩
    exact hinv.1
  · exact h

/-! ## Turns -/

/-- The greeting is the first payload that is written. -/
theorem greets {inbox : List Item} (h : Tracks settings c l) (hs : c.session = some s)
    (haccepted : l.current.accepted = s.outbox.queue) (hwritten : l.current.written = [])
    (hg : Greets c s inbox c' es) : Tracks settings c' (es.foldl .note l) := by
  cases hg with
  | fails _ => exact h.leave hs _
  | arrives _ =>
    refine h.update hs rfl rfl ⟨[], haccepted, ?_⟩
    show l.current.written ++ [c.greeting] = _
    rw [hwritten, greeting, h.settings_eq]
    rfl

/-- An envelope that is written is the oldest one that was accepted and not written. -/
theorem writes {s₁ : Session} {inbox : List Item} {e : Envelope} (h : Tracks settings c l)
    (hs : c.session = some s) (howes : l.current.Owes settings.token (e :: s₁.outbox.queue))
    (hw : Writes c s₁ inbox e c' es) : Tracks settings c' (es.foldl .note l) := by
  cases hw with
  | fails _ => exact h.update hs rfl rfl h.current.proper
  | arrives _ =>
    obtain ⟨sent, ha, hw⟩ := howes
    refine h.update hs rfl rfl ⟨sent ++ [e], ?_, ?_⟩
    · exact ha.trans (List.append_cons sent e _)
    · show l.current.written ++ [e.payload] = _
      rw [hw, List.map_append]
      rfl

/-- A turn keeps the ledger. -/
theorem turn (h : Tracks settings c l) (ht : c.turn = some (c', es)) :
    Tracks settings c' (es.foldl .note l) := by
  obtain ⟨s, hs, ht⟩ := turns_of_turn ht
  cases ht with
  | givesUp _ _ => exact h.leave hs none
  | quits _ _ | deserted _ _ _ | ends _ _ _ _ => exact h.leave hs _
  | refused _ _ _ _ => exact h.update hs rfl rfl h.current.proper
  | greetingWaits hst _ _ _ _ =>
    have hfits := h.fits_held hs hst
    exact h.update hs rfl rfl hfits
  | @enters peer _ _ hst _ _ _ hg =>
    have hfits := h.fits_held hs hst
    have hentered : Tracks settings (c.entered peer) l := h.congr rfl rfl rfl rfl
    exact hentered.greets hs hfits.1 hfits.2 hg
  | greets hst _ hg =>
    have hfits := h.fits_greeting hs hst
    exact h.greets hs hfits.1 hfits.2 hg
  | @writeWaits inbox e queue hst _ hq _ =>
    have howes := h.fits_serving hs hst
    rw [hq] at howes
    exact h.update hs rfl rfl howes
  | @writesNext inbox e queue _ _ hst _ hq hw =>
    have howes : l.current.Owes settings.token (e :: (s.withQueue queue).outbox.queue) := by
      have howes := h.fits_serving hs hst
      rwa [hq] at howes
    exact h.writes hs howes hw
  | writesPending hst _ hw =>
    have howes := h.fits_serving hs hst
    exact h.writes hs howes hw
  | @consumes item inbox _ hst _ _ _ =>
    have howes := h.fits_serving hs hst
    have hconsumed : Tracks settings (c.withSession { s with stage := .serving inbox none }) l :=
      h.update hs rfl rfl howes
    exact hconsumed.deliver _
  | closes _ => exact h.update hs rfl rfl h.current.proper
  | @awaits farewell grace _ =>
    refine h.update hs rfl rfl ?_
    cases farewell with
    | done | failed => exact h.current.proper
    | hangs => cases grace <;> exact h.current.proper
  | returns _ => exact h.update hs rfl rfl h.current.proper

theorem settle (h : Tracks settings c l) :
    Tracks settings c.settle.1 (c.settle.2.foldl .note l) :=
  settle_invariant Ledger.note (Tracks settings) turn h

/-! ## Moves -/

/-- The answers to a call and its log keep the ledger. -/
theorem apply (h : Tracks settings c l) (step : Step) :
    Tracks settings (c.apply step).1
      ((c.apply step).2.2.foldl .note
        (l.recordAll step.offered (c.apply step).2.1.outcomes)) := by
  cases step with
  | connect => simpa [apply_connect] using h.connect
  | expire => simpa [apply_expire] using h.expire
  | submit e => simpa [apply_submit] using h.submit e
  | submitAll es => simpa [apply_submitAll] using h.submitAll es
  | close => simpa [apply_close] using h.close
  | push item => simpa [apply_push] using h.push item
  | release | configure _ | setCallback _ | clearCallback | observe | describe | settings =>
    rw [Client.apply]
    exact h.congr rfl rfl rfl rfl
  | drop => simpa [apply_drop] using h.close

/-- A step keeps the ledger, also that of a client that it gives up. -/
theorem perform (h : Tracks settings c l) (step : Step) :
    Tracks settings (c.apply step).1.settle.1 (l.observe step.offered (c.perform step).2) := by
  rw [Ledger.observe, (c.perform_eq step).1, (c.perform_eq step).2.1, List.foldl_append]
  exact (h.apply step).settle

theorem takeTurn (h : Tracks settings c l) :
    Tracks settings c.takeTurn.1 (l.observe [] c.takeTurn.2) := by
  unfold Client.takeTurn
  split
  · next ht => exact h.turn ht
  · exact h

end Tracks

theorem Coherent.takeTurn {settings : Settings} {c : Client} (h : Coherent settings c) :
    Coherent settings c.takeTurn.1 := by
  unfold Client.takeTurn
  split
  · next ht => exact h.turn ht
  · exact h

/-- A service that is settled, serves and is free to write has written all that was accepted. -/
theorem Tracks.complete {settings : Settings} {c : Client} {l : Ledger} {s : Session}
    {inbox : List Item} (h : Tracks settings c l) (hs : c.session = some s)
    (hst : s.stage = .serving inbox none) (ht : c.turn = none) :
    l.current.Complete settings.token := by
  have howes := h.fits_serving hs hst
  rw [queue_of_turn_eq_none hs hst ht] at howes
  exact howes.complete

/-! ## Runs -/

/-- What is known of a client that made some moves, and of the ledger that was kept. -/
structure Kept (settings : Settings) (p : Option Client × Ledger) : Prop where
  proper : ∀ a ∈ p.2.accounts, a.Proper settings.token
  first : p.2.accounts.head? = some .empty
  tracks : ∀ c ∈ p.1, Tracks settings c p.2
  coherent : ∀ c ∈ p.1, Coherent settings c

theorem Kept.of_tracks {settings : Settings} {c : Client} {l : Ledger}
    (h : Tracks settings c l) (hc : Coherent settings c) : Kept settings (some c, l) := by
  refine ⟨h.proper, h.head?_accounts, ?_, ?_⟩
  · intro c' hc'
    exact Option.some.inj hc' ▸ h
  · intro c' hc'
    exact Option.some.inj hc' ▸ hc

/-- A move preserves it. -/
theorem Kept.observed {settings : Settings} {p : Option Client × Ledger} (h : Kept settings p)
    (m : Move) : Kept settings (observed p m) := by
  obtain ⟨client, l⟩ := p
  rcases client with _ | c
  · have hm : Client.observed (none, l) m = (none, l) := by
      cases m <;> simp [Client.observed, move, advance, Ledger.observe, Reply.outcomes]
    rw [hm]
    exact h
  · have ht := h.tracks c rfl
    have hc := h.coherent c rfl
    cases m with
    | step s =>
      have ht' := ht.perform s
      refine ⟨ht'.proper, ht'.head?_accounts, ?_, ?_⟩
      · intro c' hc'
        rw [(c.perform_eq s).2.2 c' hc']
        exact ht'
      · intro c' hc'
        exact hc.perform hc'
    | call s => exact .of_tracks (ht.apply s) (hc.apply s)
    | turn => exact .of_tracks ht.takeTurn hc.takeTurn

theorem kept_play (reader : Address.Reader) (settings : Settings) (moves : List Move) :
    Kept settings (play reader settings moves) := by
  have hrun : ∀ (moves : List Move) (p : Option Client × Ledger), Kept settings p →
      Kept settings (moves.foldl Client.observed p) := by
    intro moves
    induction moves with
    | nil => exact fun _ h => h
    | cons m moves ih => exact fun _ h => ih _ (h.observed m)
  exact hrun moves _ (.of_tracks (.new reader settings) (.new reader settings))

/-- A step leaves a service that can do nothing more. -/
theorem turn_of_play {reader : Address.Reader} {settings : Settings} {moves : List Move}
    {step : Step} {c : Client}
    (h : (play reader settings (moves ++ [.step step])).1 = some c) : c.turn = none := by
  rw [play, List.foldl_append] at h
  change (advance (play reader settings moves).1 step).1 = some c at h
  rcases hp : (play reader settings moves).1 with _ | c₀
  · rw [hp] at h
    cases h
  · rw [hp] at h
    rw [(c₀.perform_eq step).2.2 c h, turn_settle]

/-- Whatever moves a client makes, nothing is accepted or written before the first attempt; on
every connection nothing is written, or the greeting and then the oldest of the envelopes that
its session accepted; and after a step that leaves the client active, with no breakdown and no
write that waits, everything that the session accepted is written. -/
theorem accounts_play (reader : Address.Reader) (settings : Settings) (moves : List Move) :
    (play reader settings moves).2.accounts.head? = some .empty ∧
    (∀ a ∈ (play reader settings moves).2.accounts, a.Proper settings.token) ∧
    ∀ (step : Step) (c : Client), (play reader settings (moves ++ [.step step])).1 = some c →
      c.state = .active → ¬c.HasPanicked → ¬c.IsStalled →
        (play reader settings (moves ++ [.step step])).2.current.Complete settings.token := by
  refine ⟨(kept_play reader settings moves).first, (kept_play reader settings moves).proper, ?_⟩
  intro step c hplay hst hpanicked hstalled
  have hkept := kept_play reader settings (moves ++ [.step step])
  obtain ⟨s, inbox, hs, hstage⟩ :=
    (hkept.coherent c hplay).serving_of_active hst hpanicked hstalled
  exact (hkept.tracks c hplay).complete hs hstage (turn_of_play hplay)

/-- Envelopes are accepted before the transport is open, and between any two turns. -/
example :
    let moves : List Move := [.call .connect, .call (.submit (.join "a")), .turn,
      .call (.submit (.join "b")), .turn, .turn]
    let account := (play .loopback ⟨"ws://[::1]", none, 0⟩ moves).2.current
    account.accepted.length = 2 ∧ account.written.length = 3 := by
  decide +kernel

end Client

end ChatLink
