import ChatLink.Proofs.Client.Chronicle

/-!
# Clients that are recast

A client is recast when frames that carry no event are taken out of its inbox and its threads are
numbered from another number on (`Client.recast`). Whoever sees what a client shows cannot tell
whether it was : calls and turns of the two clients show the same and lead to clients of which one
is the other one recast (`Client.perform_recast`), but for the turns that pass over a frame that
was taken out, which only one of them takes.

A client compares threads, and does nothing else with them; and a frame without an event is consumed
without a trace. Each function of the model is taken once, from the actions of a callback up to the
steps of a script.
-/

namespace ChatLink

/-- The item is a frame that carries no event. -/
def Item.isNoise (item : Item) : Bool :=
  item.frame?.any fun frame => (Frame.decode frame).toOption.isNone

/-- The stage with some items taken out of the inbox. -/
def Stage.sift (keep : Item → Bool) : Stage → Stage
  | held => held
  | greeting inbox => greeting (inbox.filter keep)
  | serving inbox pending => serving (inbox.filter keep) pending
  | leaving inbox => leaving (inbox.map (·.filter keep))
  | parting farewell grace => parting farewell grace
  | ended => ended
  | panicked => panicked

theorem Stage.sift_await (keep : Item → Bool) (farewell : Farewell) (grace : Nat) :
    (farewell.await grace).sift keep = farewell.await grace := by
  rcases farewell.await_cases grace with h | ⟨grace', h⟩ <;> rw [h] <;> rfl

def Session.recast (keep : Item → Bool) (first : Nat) (s : Session) : Session :=
  { s with thread := first + s.thread, stage := s.stage.sift keep }

namespace Client

/-- The client with only these items in its inbox, and with threads that are numbered from another
number on. -/
def recast (keep : Item → Bool) (first : Nat) (c : Client) : Client :=
  { c with
    session := c.session.map (·.recast keep first)
    serviceThread := c.serviceThread.map (first + ·)
    threads := first + c.threads }

/-- The client of an answer, recast. -/
def recasted {α : Type} (keep : Item → Bool) (first : Nat) (p : Client × α) : Client × α :=
  (p.1.recast keep first, p.2)

variable {keep : Item → Bool} {first : Nat} {c c' : Client} {s : Session} {es : List Entry}

theorem session_recast (hs : c.session = some s) :
    (c.recast keep first).session = some (s.recast keep first) := by
  rw [recast, hs]
  rfl

theorem session_recast_of_none (hs : c.session = none) :
    (c.recast keep first).session = none := by
  rw [recast, hs]
  rfl

/-! ## Callbacks -/

theorem submit_recast (c : Client) (e : Envelope) :
    (c.recast keep first).submit e = recasted keep first (c.submit e) := by
  rcases c with ⟨settings, reader, peer, state, callback, _ | ⟨thread, stage, outbox, stopping⟩,
    serviceThread, threads⟩
  · by_cases h : state = .idle ∨ state = .closed <;> simp [submit, recast, recasted, h]
  · by_cases h : state = .idle ∨ state = .closed
    · simp [submit, recast, recasted, h]
    · rcases he : outbox.enqueue e with error | next <;>
        simp [submit, recast, recasted, h, he, withSession, Session.recast]

theorem requestStop_recast (c : Client) :
    (c.recast keep first).requestStop = c.requestStop.recast keep first := by
  rcases hs : c.session with _ | s <;> simp [requestStop, recast, hs, Session.recast]

theorem crash_recast (c : Client) :
    (c.recast keep first).crash = c.crash.recast keep first := by
  rcases hs : c.session with _ | s <;> simp [crash, recast, hs, Session.recast, Stage.sift]

/-- A service knows itself by its thread, whatever the number of that. -/
theorem onServiceThread_recast (c : Client) :
    (c.recast keep first).OnServiceThread (c.recast keep first).handler ↔
      c.OnServiceThread c.handler := by
  rcases c with ⟨settings, reader, peer, state, callback, _ | s, _ | thread, threads⟩ <;>
    simp [OnServiceThread, handler, recast, Session.recast]

theorem refusal?_recast (c : Client) :
    (c.recast keep first).refusal? (c.recast keep first).handler = c.refusal? c.handler := by
  simp only [refusal?, onServiceThread_recast]
  rfl

theorem act_recast (c : Client) (e : Event) (action : Action) :
    (c.recast keep first).act e action = recasted keep first (c.act e action) := by
  cases action with
  | join room => exact c.submit_recast _
  | leave room => exact c.submit_recast _
  | send room text => exact c.submit_recast _
  | echo => exact c.submit_recast _
  | close =>
    simp only [act, onServiceThread_recast, requestStop_recast]
    split <;> rfl
  | connect =>
    simp only [act, refusal?_recast]
    split <;> rfl
  | panic => exact congrArg (·, Outcome.nothing) c.crash_recast
  | state | clearCallback | setCallback _ _ => rfl

theorem actAll_recast (e : Event) : ∀ (c : Client) (actions : List Action),
    (c.recast keep first).actAll e actions = recasted keep first (c.actAll e actions)
  | _, [] => rfl
  | c, action :: rest => by
    have hact : (c.recast keep first).act e action = recasted keep first (c.act e action) :=
      c.act_recast e action
    have hrest := actAll_recast e (c.act e action).1 rest
    cases action <;> simp [actAll, hact, hrest, recasted]

theorem deliver_recast (c : Client) (frame : List UInt8) :
    (c.recast keep first).deliver frame = recasted keep first (c.deliver frame) := by
  unfold deliver
  have hcallback : (c.recast keep first).callback = c.callback := rfl
  rw [hcallback]
  rcases Frame.decode frame with fault | e
  · rfl
  · rcases c.callback with _ | callback
    · rfl
    · simp [actAll_recast, recasted]

/-! ## Writes -/

theorem writeGreeting_recast (c : Client) (s : Session) (inbox : List Item) :
    (c.recast keep first).writeGreeting (s.recast keep first) (inbox.filter keep) =
      (c.writeGreeting s inbox).map (recasted keep first) := by
  unfold writeGreeting
  have hpeer : (c.recast keep first).peer = c.peer := rfl
  rw [hpeer]
  cases c.peer.delivery <;> rfl

theorem writePending_recast (c : Client) (s : Session) (inbox : List Item) (e : Envelope) :
    (c.recast keep first).writePending (s.recast keep first) (inbox.filter keep) e =
      (c.writePending s inbox e).map (recasted keep first) := by
  unfold writePending
  have hpeer : (c.recast keep first).peer = c.peer := rfl
  rw [hpeer]
  cases c.peer.delivery <;> rfl

theorem beginWrite_recast (c : Client) (s : Session) (inbox : List Item) (e : Envelope) :
    (c.recast keep first).beginWrite (s.recast keep first) (inbox.filter keep) e =
      recasted keep first (c.beginWrite s inbox e) := by
  unfold beginWrite
  rw [writePending_recast]
  cases c.writePending s inbox e <;> rfl

theorem enter_of_refuse (h : c.peer.refuse = true) (s : Session) :
    c.enter s = (c.leave s none, [.refused]) := by
  rw [enter, if_pos h]

theorem enter_of_not_refuse (h : c.peer.refuse = false) (s : Session) :
    c.enter s = ({ c with state := (c.state.advance .established).1 }.writeGreeting s []).getD
      ({ c with state := (c.state.advance .established).1 }.withSession
        { s with stage := .greeting [] },
          [.stalled (Envelope.hello c.settings.token).payload]) := by
  rw [enter, if_neg (by simp [h])]
  dsimp only
  cases { c with state := (c.state.advance .established).1 }.writeGreeting s [] <;> rfl

theorem enter_recast (c : Client) (s : Session) :
    (c.recast keep first).enter (s.recast keep first) = recasted keep first (c.enter s) := by
  cases hr : c.peer.refuse with
  | true =>
    rw [enter_of_refuse hr, enter_of_refuse (c := c.recast keep first) hr]
    rfl
  | false =>
    have hwrite := @writeGreeting_recast keep first
      { c with state := (c.state.advance .established).1 } s []
    rw [enter_of_not_refuse hr, enter_of_not_refuse (c := c.recast keep first) hr,
      ← Option.getD_map (recasted keep first), ← hwrite]
    rfl

theorem consume_recast (c : Client) (s : Session) (item : Item) (inbox : List Item) :
    (c.recast keep first).consume (s.recast keep first) item (inbox.filter keep) =
      recasted keep first (c.consume s item inbox) := by
  unfold consume
  rcases item.frame? with _ | frame
  · rfl
  · exact deliver_recast (c.withSession { s with stage := .serving inbox none }) frame

/-! ## Turns -/

theorem serve_recast (c : Client) (s : Session) (inbox : List Item)
    (h : s.outbox.receive.1 = .pending → ∀ item ∈ inbox.head?, keep item = true) :
    (c.recast keep first).serve (s.recast keep first) (inbox.filter keep) =
      (c.serve s inbox).map (recasted keep first) := by
  unfold serve
  have houtbox : (s.recast keep first).outbox = s.outbox := rfl
  rw [houtbox]
  rcases hr : s.outbox.receive with ⟨e | _ | _, outbox⟩
  · exact congrArg some (c.beginWrite_recast { s with outbox := outbox } inbox e)
  · rcases inbox with _ | ⟨item, inbox⟩
    · rfl
    · have hkept : keep item = true := h (by rw [hr]) item rfl
      rw [List.filter_cons_of_pos hkept]
      exact congrArg some (c.consume_recast s item inbox)
  · rfl

/-- Where the next item is kept, a turn does the same in both clients. -/
theorem turn_recast (h : ∀ item ∈ c.intake?, keep item = true) :
    (c.recast keep first).turn = c.turn.map (recasted keep first) := by
  rcases hs : c.session with _ | s
  · rw [turn_of_none hs, turn_of_none (session_recast_of_none hs)]
    rfl
  · rw [turn_of_session hs, turn_of_session (session_recast hs), turnOf, turnOf]
    rw [intake?, hs] at h
    rcases s with ⟨thread, stage, outbox, stopping⟩
    cases stage with
    | held =>
      cases stopping with
      | true => rfl
      | false =>
        show (c.peer.letIn.map _) = (c.peer.letIn.map _).map _
        rw [Option.map_map]
        exact congrArg (c.peer.letIn.map ·) (funext fun peer =>
          enter_recast { c with peer := peer } ⟨thread, .held, outbox, false⟩)
    | greeting inbox =>
      cases stopping with
      | true => rfl
      | false => exact c.writeGreeting_recast _ inbox
    | serving inbox pending =>
      cases stopping with
      | true => cases pending <;> rfl
      | false =>
        cases pending with
        | some e => exact c.writePending_recast _ inbox e
        | none =>
          refine c.serve_recast ⟨thread, .serving inbox none, outbox, false⟩ inbox
            fun hr item hi => ?_
          refine h item ?_
          simp only [Option.bind_eq_bind, Option.bind_some, Bool.false_eq_true, if_false]
          rw [hr]
          exact hi
    | leaving inbox => cases inbox <;> rfl
    | parting farewell grace =>
      have hsift := Stage.sift_await keep farewell grace
      show some ((c.recast keep first).withSession
        ⟨first + thread, farewell.await grace, outbox, stopping⟩, []) =
          some ((c.recast keep first).withSession
            ⟨first + thread, (farewell.await grace).sift keep, outbox, stopping⟩, [])
      rw [hsift]
    | ended | panicked => rfl

theorem exists_frame_of_isNoise {item : Item} (h : item.isNoise = true) :
    ∃ frame, item.frame? = some frame := by
  rw [Item.isNoise] at h
  rcases hi : item.frame? with _ | frame
  · rw [hi] at h
    cases h
  · exact ⟨frame, rfl⟩

/-- Noise is passed over. -/
theorem deliver_of_isNoise {item : Item} {frame : List UInt8} (hi : item.frame? = some frame)
    (h : item.isNoise = true) (c : Client) : c.deliver frame = (c, []) := by
  unfold deliver
  rcases hd : Frame.decode frame with fault | e
  · rfl
  · simp [Item.isNoise, hi, hd, Except.toOption] at h

/-- Noise that was taken out is consumed in a turn that shows nothing and changes nothing else. -/
theorem turn_of_isNoise {item : Item} (hitem : c.intake? = some item) (h : item.isNoise = true)
    (hkeep : keep item = false) :
    ∃ c', c.turn = some (c', []) ∧ c'.recast keep first = c.recast keep first := by
  obtain ⟨s, inbox, hs, hst, ht⟩ := exists_consume_of_intake? hitem
  obtain ⟨frame, hi⟩ := exists_frame_of_isNoise h
  have hconsume : c.consume s item inbox =
      (c.withSession { s with stage := .serving inbox none }, []) := by
    rw [consume, hi]
    exact deliver_of_isNoise hi h _
  rw [hconsume] at ht
  refine ⟨_, ht, ?_⟩
  have hrest : (item :: inbox).filter keep = inbox.filter keep :=
    List.filter_cons_of_neg (by simp [hkeep])
  have hsame : ({ s with stage := .serving inbox none } : Session).recast keep first =
      s.recast keep first := by
    rw [Session.recast, Session.recast, hst, Stage.sift, Stage.sift, hrest]
  rw [recast, recast, hs, Option.map_some, ← hsame]
  rfl

/-- A client settles as it does when it is recast, if only noise is taken out. -/
theorem settle_recast (hkeep : ∀ item, keep item = false → item.isNoise = true) (c : Client) :
    (c.recast keep first).settle = recasted keep first c.settle := by
  fun_induction settle c with
  | case1 c ht =>
    have hrecast : (c.recast keep first).turn = none := by
      rw [turn_recast (by simp [intake?_of_turn_eq_none ht]), ht]
      rfl
    exact settle_of_turn_eq_none hrecast
  | case2 c next entries ht _ last more hs ih =>
    by_cases hdropped : ∃ item ∈ c.intake?, keep item = false
    · obtain ⟨item, hitem, hdropped⟩ := hdropped
      obtain ⟨c', ht', hsame⟩ : ∃ c', c.turn = some (c', []) ∧
          c'.recast keep first = c.recast keep first :=
        turn_of_isNoise hitem (hkeep item hdropped) hdropped
      rw [ht] at ht'
      cases ht'
      rw [← hsame, ih, hs]
      rfl
    · have hturn : (c.recast keep first).turn = some (next.recast keep first, entries) := by
        rw [turn_recast (by simpa using hdropped), ht]
        rfl
      rw [settle_of_turn hturn, ih, hs]
      rfl

/-! ## Calls -/

theorem submitAll_recast : ∀ (c : Client) (es : List Envelope),
    (c.recast keep first).submitAll es = recasted keep first (c.submitAll es)
  | _, [] => rfl
  | c, e :: es => by
    have hrest := submitAll_recast (c.submit e).1 es
    simp [submitAll, submit_recast, hrest, recasted]

theorem expire_recast (c : Client) :
    (c.recast keep first).expire = c.expire.recast keep first := by
  rcases c with ⟨settings, reader, peer, state, callback, _ | ⟨thread, stage, outbox, stopping⟩,
    serviceThread, threads⟩
  · rfl
  · unfold expire
    dsimp only [recast, Option.map_some]
    rcases settings.timer? with _ | ms
    · rfl
    · cases stage <;> rfl

theorem isSome_inbox?_sift (stage : Stage) :
    (stage.sift keep).inbox?.isSome = stage.inbox?.isSome := by
  rcases stage with _ | _ | _ | (_ | _) | _ | _ | _ <;> rfl

theorem partingEntries_recast (c : Client) :
    (c.recast keep first).partingEntries = c.partingEntries := by
  rcases hs : c.session with _ | s
  · rw [partingEntries_of_none hs, partingEntries_of_none (session_recast_of_none hs)]
  · rw [partingEntries_of_session hs, partingEntries_of_session (session_recast hs), Session.recast,
      isSome_inbox?_sift]

theorem close_recast (c : Client) :
    (c.recast keep first).close .application = recasted keep first (c.close .application) := by
  rcases hs : c.session with _ | s
  · rw [close_of_none hs, close_of_none (session_recast_of_none hs)]
    rfl
  · rw [close_of_session hs, close_of_session (session_recast hs), partingEntries_recast]
    rfl

theorem reap_recast (c : Client) :
    (c.recast keep first).reap = recasted keep first c.reap := by
  rcases hs : c.session with _ | s
  · rw [reap_of_none hs, reap_of_none (session_recast_of_none hs)]
    rfl
  · have hlooping : (s.recast keep first).stage.isLooping = s.stage.isLooping := by
      show (s.stage.sift keep).isLooping = _
      cases s.stage <;> rfl
    rw [reap_of_session hs, reap_of_session (session_recast hs), partingEntries_recast, hlooping]
    cases s.stage.isLooping <;> rfl

theorem connect_recast (c : Client) :
    (c.recast keep first).connect .application = recasted keep first (c.connect .application) := by
  have hrefusal : (c.recast keep first).refusal? .application = c.refusal? .application := by
    rw [refusal?_application, refusal?_application]
    rfl
  unfold connect
  rw [hrefusal, reap_recast]
  cases c.refusal? .application with
  | some error => rfl
  | none =>
    dsimp only [recasted]
    have hreader : (c.reap.1.recast keep first).reader = c.reap.1.reader := rfl
    have hsettings : (c.reap.1.recast keep first).settings = c.reap.1.settings := rfl
    rw [hreader, hsettings]
    cases Endpoint.parse c.reap.1.reader c.reap.1.settings.endpoint <;> rfl

theorem push_recast {item : Item} (h : keep item = true) (c : Client) :
    (c.recast keep first).push item = recasted keep first (c.push item) := by
  have hitem : ∀ inbox : List Item,
      (inbox ++ [item]).filter keep = inbox.filter keep ++ [item] := by
    intro inbox
    simp [h]
  rcases c with ⟨settings, reader, peer, state, callback, _ | ⟨thread, stage, outbox, stopping⟩,
    serviceThread, threads⟩
  · rfl
  · rcases stage with _ | _ | _ | (_ | _) | _ | _ | _ <;>
      simp [push, recast, recasted, Session.recast, Stage.sift, Stage.receive, withSession, hitem]

theorem apply_recast {step : Step} (h : ∀ item, step = .push item → keep item = true)
    (c : Client) : (c.recast keep first).apply step = recasted keep first (c.apply step) := by
  cases step with
  | connect => simp only [apply_connect, connect_recast, recasted]
  | expire => simp only [apply_expire, expire_recast, recasted]
  | submit e => simp only [apply_submit, submit_recast, recasted]
  | submitAll es => simp only [apply_submitAll, submitAll_recast, recasted]
  | close => simp only [apply_close, close_recast, recasted]
  | push item => simp only [apply_push, push_recast (h item rfl), recasted]
  | drop => simp only [apply_drop, close_recast, recasted]
  | observe => simp only [apply, recasted]
  | release | configure _ | setCallback _ | clearCallback | describe | settings =>
    simp only [apply, recasted]
    rfl

/-- Where the call of a step is the same but for the recasting, so is all of the step. -/
theorem perform_of_apply_recast (hkeep : ∀ item, keep item = false → item.isNoise = true)
    {c₁ c₂ : Client} {step : Step} (h : c₁.apply step = recasted keep first (c₂.apply step)) :
    c₁.perform step = ((c₂.perform step).1.map (·.recast keep first), (c₂.perform step).2) := by
  unfold perform
  rw [h]
  generalize c₂.apply step = applied
  obtain ⟨d, reply, entries⟩ := applied
  have hsettle : (d.recast keep first).settle = recasted keep first d.settle :=
    settle_recast hkeep d
  dsimp only [recasted] at hsettle ⊢
  rw [hsettle]
  cases step <;> rfl

/-- A step shows of a client what it shows of it when it is recast, and leaves it as that. -/
theorem perform_recast (hkeep : ∀ item, keep item = false → item.isNoise = true) {step : Step}
    (h : ∀ item, step = .push item → keep item = true) (c : Client) :
    (c.recast keep first).perform step =
      ((c.perform step).1.map (·.recast keep first), (c.perform step).2) :=
  perform_of_apply_recast hkeep (apply_recast h c)

end Client

end ChatLink
