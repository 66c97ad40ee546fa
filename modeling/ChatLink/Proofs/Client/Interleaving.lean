import ChatLink.Proofs.Client.Progress
import ChatLink.Proofs.Lifecycle.Threads

/-!
# The threads behind a client

A client makes each call at once and lets its service take whole turns. Behind it are two threads
that share the state and do one operation at a time. Of either it is seen when a service begins and
when it has come to its end, and when somebody closes the client (`Mark`).

Whatever a client goes through, its threads can go through in some interleaving, and what is seen of
the two is the same, in the same order (`Client.threaded_chronicle`).
-/

namespace ChatLink

/-! ## What is seen -/

/-- What is seen both of a client and of its threads. -/
inductive Mark where
  | begins
  /-- A service has come to its end. -/
  | ends
  /-- Somebody closes the client. -/
  | closes
  deriving DecidableEq

/-- What is seen when a thread does this. -/
def Deed.mark? : Deed → Option Mark
  | started => some .begins
  | exited => some .ends
  | forced .caller .closing | returned false => some .closes
  | forced _ _ | returned true | advanced _ _ | quiet => none

theorem Deed.marks_snoc (deeds : List Deed) (deed : Deed) :
    (deeds ++ [deed]).filterMap mark? = deeds.filterMap mark? ++ deed.mark?.toList := by
  rw [List.filterMap_append]
  cases hd : deed.mark? <;> simp [hd]

/-- What is seen when this happens to a client. -/
def Occurrence.mark? : Occurrence → Option Mark
  | logged (.connect _) => some .begins
  | ended => some .ends
  | made step _ => if step.closes then some .closes else none
  | logged _ | consumed _ _ => none

/-- The end that is still to come for a service. -/
def Worker.owed (w : Worker) : List Mark := if w = .gone then [] else [.ends]

theorem Worker.owed_of_ne_gone {w : Worker} (h : w ≠ .gone) : w.owed = [.ends] := if_neg h

/-! ## What the threads can come to -/

/-- The threads can come to this, and these marks are seen on the way. -/
def Threads.IsReached (marks : List Mark) (t : Threads) : Prop :=
  ∃ deeds, Run deeds t ∧ deeds.filterMap Deed.mark? = marks

namespace Threads.IsReached

variable {t t' : Threads} {s : Lifecycle} {caller : Caller} {session : Bool} {w w' : Worker}
  {deed : Deed} {marks : List Mark}

theorem initial : IsReached [] .initial := ⟨[], .initial, rfl⟩

theorem operates (h : IsReached marks t) (ho : Operates t deed t') :
    IsReached (marks ++ deed.mark?.toList) t' := by
  obtain ⟨deeds, h, rfl⟩ := h
  exact ⟨_, h.snoc ho, Deed.marks_snoc deeds deed⟩

/-- An operation of the caller of which nothing is seen. -/
theorem calls (h : IsReached marks t) (hc : Calls t deed t') (hd : deed.mark? = none) :
    IsReached marks t' := by
  simpa [hd] using h.operates (.caller hc)

/-- An operation of the service of which nothing is seen. -/
theorem works {s' : Lifecycle} (h : IsReached marks ⟨s, caller, session, w⟩)
    (hw : Works s w deed s' w') (hd : deed.mark? = none) :
    IsReached marks ⟨s', caller, session, w'⟩ := by
  simpa [hd] using h.operates (.service caller session hw)

/-- A service that is asked to stop, or meets with a failure, forces the state to closed. -/
theorem leave (h : IsReached marks ⟨s, caller, session, w⟩) (hw : w.canLeave = true) :
    IsReached marks ⟨.closed, caller, session, .parting⟩ :=
  (h.works (.leaves s hw) rfl).works (.forces s) rfl

/-- The transport is closed, and the thread is gone. -/
theorem part (h : IsReached marks ⟨s, caller, session, .parting⟩) :
    IsReached (marks ++ [.ends]) ⟨s, caller, session, .gone⟩ :=
  h.operates (.service caller session (.ends s))

/-- An advance that nobody interferes with. -/
theorem advance {target : Lifecycle}
    (h : IsReached marks ⟨s, caller, session, .advancing target .loading⟩) (hs : s < target) :
    IsReached marks ⟨target, caller, session, .advancing target (.done true)⟩ := by
  have hlook : Advance.look target s = .exchanging s := if_pos hs
  have hloads := h.works (.advances (.loads s)) rfl
  rw [hlook] at hloads
  exact hloads.works (.advances (.swaps s)) rfl

/-- A transport that is open : the greeting begins. -/
theorem enter (h : IsReached marks ⟨.connecting, caller, session, .opening⟩) :
    IsReached marks ⟨.established, caller, session, .greeting⟩ :=
  ((h.works (.opens .connecting) rfl).advance (by decide)).works (.greets .established true) rfl

/-- A greeting that is written. -/
theorem greet (h : IsReached marks ⟨.established, caller, session, .greeting⟩) :
    IsReached marks ⟨.active, caller, session, .serving⟩ :=
  ((h.works (.greeted .established) rfl).advance (by decide)).works (.serves .active true) rfl

/-- A call to close, wherever the service stands between two turns. -/
theorem close (h : IsReached marks ⟨s, .free, true, w⟩)
    (hw : w = .gone ∨ w = .parting ∨ w.canLeave = true) :
    IsReached (marks ++ .closes :: w.owed) ⟨.closed, .free, false, .gone⟩ := by
  have hcloses : IsReached (marks ++ [.closes]) ⟨.closing, .stopping, false, w⟩ :=
    (h.calls (.takes s w) rfl).operates (.caller (.closes s false w))
  have hwaits := hcloses.calls (.stops .closing false w) rfl
  have hjoins : ∃ s', IsReached (marks ++ .closes :: w.owed) ⟨s', .waiting, false, .gone⟩ := by
    rcases hw with rfl | rfl | hw
    · exact ⟨_, hwaits⟩
    · rw [List.append_cons]
      exact ⟨_, hwaits.part⟩
    · rw [Worker.owed_of_ne_gone (by rintro rfl; cases hw), List.append_cons]
      exact ⟨_, (hwaits.leave hw).part⟩
  obtain ⟨s', hjoins⟩ := hjoins
  exact ((hjoins.calls (.joins s' false) rfl).calls (.finishes s' false .gone) rfl).calls
    (.returns .closed false .gone) rfl

/-- A call to connect waits for the thread of the last service. -/
theorem reap (h : IsReached marks ⟨s, .free, session, w⟩) (hs : s.isLive = false)
    (hw : w = .gone ∨ session = true ∧ w = .parting) :
    IsReached (marks ++ w.owed) ⟨s, .starting, false, .gone⟩ := by
  have hlooks := h.calls (.looks hs session w) rfl
  rcases hw with rfl | ⟨rfl, rfl⟩
  · rw [Worker.owed, if_pos rfl, List.append_nil]
    cases session with
    | true => exact hlooks.calls (.reaps s false) rfl
    | false => exact hlooks
  · exact hlooks.part.calls (.reaps s false) rfl

/-- A call to connect that makes a thread. -/
theorem connect (h : IsReached marks ⟨s, .starting, false, .gone⟩) :
    IsReached (marks ++ [.begins]) ⟨.connecting, .free, true, .opening⟩ :=
  ((h.calls (.reads s false .gone) rfl).calls (.connects s s false .gone) rfl).operates
    (.caller (.spawns .connecting s false .gone))

end Threads.IsReached

/-! ## Threads and stages -/

/-- Where the thread of a service stands between turns. -/
def Stage.worker : Stage → Worker
  | held => .opening
  | greeting _ => .greeting
  | serving _ _ => .serving
  | leaving _ | parting _ _ => .parting
  | ended | panicked => .gone

/-- The thread of a service that has left its loop closes the transport, or it is gone. -/
theorem Stage.worker_of_not_isLooping {stage : Stage} (h : stage.isLooping = false) :
    stage.worker = .gone ∨ stage.worker = .parting := by
  cases stage with
  | held | greeting _ | serving _ _ => cases h
  | leaving _ | parting _ _ => exact .inr rfl
  | ended | panicked => exact .inl rfl

theorem Stage.worker_receive {item : Item} {stage stage' : Stage}
    (h : stage.receive item = some stage') : stage'.worker = stage.worker := by
  rcases receive_cases h with ⟨_, rfl, rfl⟩ | ⟨_, _, rfl, rfl⟩ | ⟨_, rfl, rfl⟩ <;> rfl

theorem Stage.owed_worker (stage : Stage) :
    stage.worker.owed = if stage.isRunning then [.ends] else [] := by
  cases stage <;> rfl

namespace Client

variable {settings : Settings} {c c' : Client} {s : Session} {es : List Entry}
  {marks : List Mark} {told : List Occurrence}

/-- Where the thread of the client's service stands. -/
def worker (c : Client) : Worker := (c.stage?.map Stage.worker).getD .gone

/-- The threads behind a client, between calls and turns. -/
def behind (c : Client) : Threads := ⟨c.state, .free, c.session.isSome, c.worker⟩

/-- The threads can come to what the client shows. -/
def IsThreaded (marks : List Mark) (c : Client) : Prop := c.behind.IsReached marks

theorem behind_of_none (hs : c.session = none) : c.behind = ⟨c.state, .free, false, .gone⟩ := by
  rw [behind, worker, stage?, hs]
  rfl

theorem behind_of_session (hs : c.session = some s) :
    c.behind = ⟨c.state, .free, true, s.stage.worker⟩ := by
  rw [behind, worker, stage?, hs]
  rfl

theorem behind_congr (hstate : c'.state = c.state) (hstage : c'.stage? = c.stage?) :
    c'.behind = c.behind := by
  rw [behind, behind, worker, worker, isSome_session, isSome_session, hstate, hstage]

theorem worker_of_session (hs : c.session = some s) : c.worker = s.stage.worker := by
  rw [worker, stage?_of_session hs rfl]
  rfl

/-! ## What is seen of calls and turns -/

/-- Of the last words of a service it is seen that it has come to its end. -/
theorem marks_lastWords (c : Client) :
    c.lastWords.filterMap Occurrence.mark? = c.worker.owed := by
  rcases hs : c.session with _ | s
  · rw [lastWords_of_none hs, worker, stage?, hs]
    rfl
  · rw [lastWords_of_session hs, worker_of_session hs, Stage.owed_worker]
    cases s.stage.inbox?.isSome <;> cases s.stage.isRunning <;> rfl

/-- Of a turn it is seen whether it was the last one. -/
theorem marks_turnOccurrences (ht : c.turn = some (c', es)) :
    c.turnOccurrences.filterMap Occurrence.mark? =
      (c.parting c').filterMap Occurrence.mark? := by
  have hnone : ∀ o ∈ es.map Occurrence.logged, o.mark? = none := by
    intro o ho
    have hbegins : o.begins = false := by
      refine not_begins_turnOccurrences ht o ?_
      rw [turnOccurrences_of_turn ht]
      exact List.mem_append_right _ (List.mem_append_left _ ho)
    obtain ⟨entry, -, rfl⟩ := List.mem_map.1 ho
    cases entry with
    | connect url => cases hbegins
    | _ => rfl
  rw [turnOccurrences_of_turn ht, List.filterMap_append, List.filterMap_append,
    List.filterMap_eq_nil_iff.2 hnone]
  cases c.intake? <;> rfl

theorem marks_made {step : Step} (hstep : step.closes = false) (reply : Reply) :
    [Occurrence.made step reply].filterMap Occurrence.mark? = [] := by
  simp [Occurrence.mark?, hstep]

namespace IsThreaded

theorem new (reader : Address.Reader) (settings : Settings) :
    IsThreaded [] (.new reader settings) :=
  .initial

/-- The state and the stage are all that matters. -/
theorem congr (h : IsThreaded marks c) (hstate : c'.state = c.state)
    (hstage : c'.stage? = c.stage?) : IsThreaded marks c' := by
  rwa [IsThreaded, behind_congr hstate hstage]

/-- The threads behind a client that has a session. -/
theorem reached (h : IsThreaded marks c) (hs : c.session = some s) :
    Threads.IsReached marks ⟨c.state, .free, true, s.stage.worker⟩ :=
  behind_of_session hs ▸ h

theorem of_reached (hs : c.session = some s)
    (h : Threads.IsReached marks ⟨c.state, .free, true, s.stage.worker⟩) :
    IsThreaded marks c := by
  rwa [IsThreaded, behind_of_session hs]

/-- A service that leaves its loop. -/
theorem leave (h : IsThreaded marks c) (hs : c.session = some s)
    (hw : s.stage.worker.canLeave = true) (c₁ : Client) (inbox : Option (List Item)) :
    IsThreaded marks (c₁.leave s inbox) :=
  of_reached rfl ((h.reached hs).leave hw)

/-! ## Calls -/

theorem push (h : IsThreaded marks c) (item : Item) : IsThreaded marks (c.push item).1 := by
  rcases c.push_cases item with ⟨s, stage, hs, hst, heq⟩ | ⟨-, heq⟩
  · rw [heq]
    have hreached := h.reached hs
    rw [← Stage.worker_receive hst] at hreached
    exact of_reached rfl hreached
  · rw [heq]
    exact h

theorem close (h : IsThreaded marks c) :
    IsThreaded (marks ++ .closes :: c.worker.owed) (c.close .application).1 := by
  rcases hs : c.session with _ | s
  · have hskips : Threads.IsReached (marks ++ [.closes]) ⟨c.state, .free, false, .gone⟩ := by
      rw [IsThreaded, behind_of_none hs] at h
      exact h.operates (.caller (.skips c.state .gone))
    rw [close_of_none hs, IsThreaded, behind_of_none hs, worker, stage?, hs]
    exact hskips
  · rw [close_of_session hs, worker_of_session hs]
    refine (h.reached hs).close ?_
    cases s.stage with
    | ended | panicked => exact .inl rfl
    | leaving _ | parting _ _ => exact .inr (.inl rfl)
    | held | greeting _ | serving _ _ => exact .inr (.inr rfl)

/-- Whoever connects where no session lives has waited for the thread of the last one. -/
theorem reap (h : IsThreaded marks c) (hc : Coherent settings c) (hlive : c.state.isLive = false) :
    Threads.IsReached (marks ++ c.worker.owed) ⟨c.state, .starting, false, .gone⟩ := by
  rcases hs : c.session with _ | s
  · rw [IsThreaded, behind_of_none hs] at h
    rw [worker, stage?, hs]
    exact h.reap hlive (.inl rfl)
  · rw [worker_of_session hs]
    refine (h.reached hs).reap hlive ?_
    have hworker := Stage.worker_of_not_isLooping (hc.state_eq_closed hs hlive).1
    exact hworker.imp id fun hparting => ⟨rfl, hparting⟩

theorem connect (h : IsThreaded marks c) (hc : Coherent settings c) :
    IsThreaded (marks ++ (c.callOccurrences .connect).filterMap Occurrence.mark?)
      (c.apply .connect).1 := by
  cases hattempt : c.attempt? .connect with
  | some url =>
    obtain ⟨-, hr, heq⟩ := attempt?_eq_some hattempt
    have hreaped := h.reap hc (refusal?_eq_none.1 hr).2
    rw [callOccurrences_of_begins hattempt, apply_connect, heq,
      List.filterMap_cons_none (by rfl), List.filterMap_append, marks_lastWords,
      ← List.append_assoc]
    exact of_reached rfl hreaped.connect
  | none =>
    obtain ⟨error, ⟨heq, hcall⟩ | ⟨hr, heq, hcall⟩⟩ := connect_of_attempt?_eq_none hattempt
    · rw [hcall, apply_connect, heq, marks_made rfl, List.append_nil]
      exact h
    · have hlive := (refusal?_eq_none.1 hr).2
      rw [hcall, apply_connect, heq, List.filterMap_cons_none (by rfl), marks_lastWords,
        hc.reap_eq hlive]
      exact (h.reap hc hlive).calls (.abandons _ false .gone) rfl

theorem apply (h : IsThreaded marks c) (hc : Coherent settings c) (step : Step) :
    IsThreaded (marks ++ (c.callOccurrences step).filterMap Occurrence.mark?)
      (c.apply step).1 := by
  -- of a call that neither connects nor closes nothing is seen
  have hunseen : step.closes = false → c.awaited? step = none → c.attempt? step = none →
      IsThreaded marks (c.apply step).1 →
      IsThreaded (marks ++ (c.callOccurrences step).filterMap Occurrence.mark?)
        (c.apply step).1 := by
    intro hstep hawaited hattempt h
    rwa [callOccurrences_eq_made hawaited hattempt, marks_made hstep, List.append_nil]
  cases step with
  | connect => exact h.connect hc
  | expire =>
    refine hunseen rfl rfl rfl ?_
    rw [apply_expire]
    rcases c.expire_cases with ⟨s, hs, hst, -, heq⟩ | heq
    · rw [heq]
      exact h.leave hs (by rw [hst]; rfl) c none
    · rw [heq]
      exact h
  | submit e => exact hunseen rfl rfl rfl (h.congr (c.state_submit e) (c.stage?_submit e))
  | submitAll es =>
    exact hunseen rfl rfl rfl (h.congr (c.state_submitAll es) (c.stage?_submitAll es))
  | push item => exact hunseen rfl rfl rfl (h.push item)
  | close | drop =>
    rw [callOccurrences_of_closes rfl, apply_of_closes rfl, List.filterMap_cons_some (by rfl),
      marks_lastWords]
    exact h.close
  | release | configure _ | setCallback _ | clearCallback | observe | describe | settings =>
    exact hunseen rfl rfl rfl h

/-! ## Turns -/

theorem greets {inbox : List Item} (hst : c.state = .established)
    (h : Threads.IsReached marks ⟨.established, .free, true, .greeting⟩)
    (hg : Greets c s inbox c' es) : IsThreaded marks c' ∧ c'.isServed = true := by
  cases hg with
  | fails _ => exact ⟨h.leave rfl, rfl⟩
  | arrives _ =>
    refine ⟨of_reached rfl ?_, rfl⟩
    show Threads.IsReached marks ⟨(c.state.advance .active).1, .free, true, .serving⟩
    rw [hst]
    exact h.greet

theorem writes {inbox : List Item} {e : Envelope}
    (h : Threads.IsReached marks ⟨c.state, .free, true, .serving⟩)
    (hw : Writes c s inbox e c' es) : IsThreaded marks c' ∧ c'.isServed = true := by
  cases hw with
  | fails _ => exact ⟨h.leave rfl, rfl⟩
  | arrives _ => exact ⟨of_reached rfl h, rfl⟩

/-- A callback may break the service down. -/
theorem deliver (hs : c.session = some s) (hst : s.stage.worker = .serving)
    (h : Threads.IsReached marks ⟨c.state, .free, true, .serving⟩) (frame : List UInt8) :
    IsThreaded marks (c.deliver frame).1 ∧ (c.deliver frame).1.isServed = true ∨
      IsThreaded (marks ++ [.ends]) (c.deliver frame).1 ∧
        (c.deliver frame).1.isServed = false := by
  have hstage : c.stage? = some s.stage := stage?_of_session hs rfl
  have hrunning : s.stage.isRunning = true := by
    cases hst' : s.stage <;> rw [hst'] at hst <;> first | rfl | cases hst
  rw [IsThreaded, IsThreaded, behind, worker, isSome_session, c.state_deliver frame]
  rcases c.stage?_deliver frame with hsame | hbroken
  · refine .inl ⟨?_, by rw [isServed_of_stage? (hsame.trans hstage), hrunning]⟩
    rw [hsame, hstage, Option.map_some, Option.getD_some, hst]
    exact h
  · rw [hstage] at hbroken
    refine .inr ⟨?_, isServed_of_stage? hbroken⟩
    rw [hbroken]
    exact h.operates (.service .free true (.breaks c.state))

theorem turn (h : IsThreaded marks c) (hc : Coherent settings c) (ht : c.turn = some (c', es)) :
    IsThreaded marks c' ∧ c'.isServed = true ∨
      IsThreaded (marks ++ [.ends]) c' ∧ c'.isServed = false := by
  obtain ⟨s, hs, hturns⟩ := turns_of_turn ht
  have hreach : ∀ {stage : Stage}, s.stage = stage →
      Threads.IsReached marks ⟨stage.state, .free, true, stage.worker⟩ := by
    rintro stage rfl
    rw [← hc.state_of_session hs]
    exact h.reached hs
  have hserving : ∀ {inbox : List Item} {pending : Option Envelope},
      s.stage = .serving inbox pending →
        Threads.IsReached marks ⟨c.state, .free, true, .serving⟩ := by
    intro inbox pending hst
    rw [hc.state_eq hs hst]
    exact hreach hst
  have hparting : s.stage.worker = .parting →
      Threads.IsReached marks ⟨c.state, .free, true, .parting⟩ := by
    intro hw
    rw [← hw]
    exact h.reached hs
  cases hturns with
  | givesUp hst _ => exact .inl ⟨h.leave hs (by rw [hst]; rfl) c none, rfl⟩
  | quits hst _ =>
    refine .inl ⟨h.leave hs ?_ c _, rfl⟩
    cases hstage : s.stage <;> rw [hstage] at hst <;> first | rfl | cases hst
  | refused hst _ _ _ => exact .inl ⟨h.leave hs (by rw [hst]; rfl) _ none, rfl⟩
  | @greetingWaits peer hst _ _ _ _ =>
    refine .inl ⟨of_reached rfl ?_, rfl⟩
    show Threads.IsReached marks ⟨(c.entered peer).state, .free, true, .greeting⟩
    rw [entered_state peer (hc.state_eq hs hst)]
    exact (hreach hst).enter
  | @enters peer _ _ hst _ _ _ hg =>
    exact .inl (greets (entered_state peer (hc.state_eq hs hst)) (hreach hst).enter hg)
  | greets hst _ hg => exact .inl (greets (hc.state_eq hs hst) (hreach hst) hg)
  | writeWaits hst _ _ _ => exact .inl ⟨of_reached rfl (hserving hst), rfl⟩
  | writesNext hst _ _ hw => exact .inl (writes (hserving hst) hw)
  | writesPending hst _ hw => exact .inl (writes (hserving hst) hw)
  | deserted hst _ _ | ends hst _ _ _ =>
    exact .inl ⟨h.leave hs (by rw [hst]; rfl) c _, rfl⟩
  | @consumes _ inbox frame hst _ _ _ =>
    have hs' : (c.withSession { s with stage := .serving inbox none }).session =
        some { s with stage := .serving inbox none } := rfl
    exact deliver hs' rfl (hserving hst) frame
  | closes hst => exact .inl ⟨of_reached rfl (hparting (by rw [hst]; rfl)), rfl⟩
  | @awaits farewell grace hst =>
    have hreached := hparting (by rw [hst]; rfl)
    rcases farewell.await_cases grace with hawait | ⟨grace', hawait⟩ <;> rw [hawait]
    · exact .inr ⟨of_reached rfl hreached.part, rfl⟩
    · exact .inl ⟨of_reached rfl hreached, rfl⟩
  | returns hst => exact .inr ⟨of_reached rfl (hparting (by rw [hst]; rfl)).part, rfl⟩

theorem turnOccurrences (h : IsThreaded marks c) (hc : Coherent settings c)
    (ht : c.turn = some (c', es)) :
    IsThreaded (marks ++ c.turnOccurrences.filterMap Occurrence.mark?) c' := by
  rw [marks_turnOccurrences ht]
  rcases h.turn hc ht with ⟨h', hserved⟩ | ⟨h', hgone⟩
  · rw [parting_of_isServed hserved]
    exact (List.append_nil marks).symm ▸ h'
  · rw [parting_of_ends (isServed_of_turn ht) hgone]
    exact h'

end IsThreaded

/-- Between its moves a client shows what its threads come to in some interleaving, and whoever
looks at either sees the same in the same order. -/
theorem threaded_chronicle (reader : Address.Reader) (settings : Settings) (moves : List Move) :
    ∀ c ∈ (chronicle reader settings moves).1,
      c.behind.IsReached ((chronicle reader settings moves).2.filterMap Occurrence.mark?) := by
  intro c hc
  obtain ⟨c', ⟨-, hthreaded⟩, hclient⟩ := chronicle_invariant
    (fun c told => Coherent settings c ∧ c.IsThreaded (told.filterMap Occurrence.mark?))
    (fun step h => ⟨h.1.apply step, List.filterMap_append ▸ h.2.apply h.1 step⟩)
    (fun h ht => ⟨h.1.turn ht, List.filterMap_append ▸ h.2.turnOccurrences h.1 ht⟩)
    ⟨.new reader settings, .new reader settings⟩ moves
  exact hclient c hc ▸ hthreaded

end Client

end ChatLink
