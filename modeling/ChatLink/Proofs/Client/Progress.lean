import ChatLink.Proofs.Client.Course

/-!
# How a client goes through its phases

The stage of its service and the state of a client tell the phase in which the client is
(`Client.phase`). Where a chapter is a course that leads to the phase of the client, every call and
every turn go on with it (`Client.course_apply`, `Client.course_turn`), and an attempt begins after
the service of the last one is gone (`Client.course_begun`). So the chapters of every chronicle are
courses, and the current one leads to the phase of the client (`Client.Follows`,
`Client.follows_chronicle`).
-/

namespace ChatLink

/-! ## The phase of a client -/

/-- The payload of the greeting that opens a session with these settings. -/
def Settings.greeting (settings : Settings) : String := (Envelope.hello settings.token).payload

/-- The phase of an attempt whose service stands here. -/
def Stage.phase : Stage → Phase
  | held => .held
  | greeting _ => .greeting
  | serving _ _ => .serving
  | leaving (some _) => .closing
  | leaving none | parting _ _ => .leaving
  | ended => .gone
  | panicked => .broken

namespace Stage

variable {stage : Stage}

theorem phase_eq_held : stage.phase = .held ↔ stage = .held := by
  rcases stage with _ | _ | _ | (_ | _) | _ | _ | _ <;> simp [phase]

theorem phase_eq_greeting : stage.phase = .greeting ↔ ∃ inbox, stage = .greeting inbox := by
  rcases stage with _ | _ | _ | (_ | _) | _ | _ | _ <;> simp [phase]

theorem phase_eq_serving :
    stage.phase = .serving ↔ ∃ inbox pending, stage = .serving inbox pending := by
  rcases stage with _ | _ | _ | (_ | _) | _ | _ | _ <;> simp [phase]

theorem phase_eq_broken : stage.phase = .broken ↔ stage = .panicked := by
  rcases stage with _ | _ | _ | (_ | _) | _ | _ | _ <;> simp [phase]

theorem isSteady_phase (h : stage ≠ .panicked) : stage.phase.isSteady = true := by
  rcases stage with _ | _ | _ | (_ | _) | _ | _ | _ <;> first | rfl | exact absurd rfl h

theorem phase_receive {item : Item} {stage' : Stage} (h : stage.receive item = some stage') :
    stage'.phase = stage.phase := by
  rcases receive_cases h with ⟨_, rfl, rfl⟩ | ⟨_, _, rfl, rfl⟩ | ⟨_, rfl, rfl⟩ <;> rfl

end Stage

/-- A service is at work. -/
def Phase.isRunning : Phase → Bool
  | held | greeting | serving | calling _ _ | closing | leaving | breaking => true
  | before | broken | gone => false

theorem Stage.isRunning_phase (stage : Stage) : stage.phase.isRunning = stage.isRunning := by
  rcases stage with _ | _ | _ | (_ | _) | _ | _ | _ <;> rfl

namespace Client

/-- The phase in which a client is. -/
def phase (c : Client) : Phase :=
  match c.stage? with
  | some stage => stage.phase
  | none => if c.state = .idle then .before else .gone

variable {settings : Settings} {hello : String} {c c' c₁ : Client} {s s₁ : Session}
  {told chapter : List Occurrence} {es : List Entry}

theorem phase_of_stage? {stage : Stage} (h : c.stage? = some stage) : c.phase = stage.phase := by
  rw [phase, h]

theorem stage?_of_session {stage : Stage} (hs : c.session = some s) (hst : s.stage = stage) :
    c.stage? = some stage := by
  rw [stage?, hs, Option.map_some, hst]

theorem phase_of_session {stage : Stage} (hs : c.session = some s) (hst : s.stage = stage) :
    c.phase = stage.phase :=
  phase_of_stage? (stage?_of_session hs hst)

theorem phase_congr (hstage : c'.stage? = c.stage?) (hstate : c'.state = c.state) :
    c'.phase = c.phase := by
  rw [phase, phase, hstage, hstate]

theorem phase_of_none (hs : c.session = none) : c.phase = .before ∨ c.phase = .gone := by
  have hstage : c.stage? = none := congrArg (Option.map _) hs
  rw [phase, hstage]
  dsimp only
  split
  · exact .inl rfl
  · exact .inr rfl

/-- Between calls and turns a service is in a phase in which steps can be made. -/
theorem phase_steady (c : Client) : c.phase.isSteady = true ∨ c.phase = .broken := by
  rcases hs : c.session with _ | s
  · rcases phase_of_none hs with h | h <;> exact .inl (by rw [h]; rfl)
  · rw [phase_of_session hs rfl, Stage.phase_eq_broken]
    by_cases hst : s.stage = .panicked
    · exact .inr hst
    · exact .inl (Stage.isSteady_phase hst)

/-- A service that can do nothing more is in a phase in which it can rest. -/
theorem isResting_of_turn_eq_none (h : c.turn = none) : c.phase.isResting = true := by
  rcases hs : c.session with _ | s
  · rcases phase_of_none hs with hp | hp <;> rw [hp] <;> rfl
  · rw [turn_of_session hs, turnOf] at h
    rw [phase_of_session hs rfl]
    cases hst : s.stage with
    | held | greeting _ | serving _ _ | ended | panicked => rfl
    | leaving inbox =>
      rw [hst] at h
      cases inbox <;> cases h
    | parting farewell grace =>
      rw [hst] at h
      cases h

theorem isServed_eq (c : Client) : c.isServed = c.phase.isRunning := by
  rcases hs : c.session with _ | s
  · rw [isServed_of_none (congrArg (Option.map _) hs)]
    rcases phase_of_none hs with h | h <;> rw [h] <;> rfl
  · have hstage : c.stage? = some s.stage := congrArg (Option.map _) hs
    rw [isServed_of_stage? hstage, phase_of_stage? hstage, Stage.isRunning_phase]

theorem parting_of_phase_eq (h : c'.phase = c.phase) : c.parting c' = [] := by
  simp [parting, isServed_eq, h]

/-- A call for which nobody waits and with which no attempt begins is told as a step and no more. -/
theorem callOccurrences_eq_made {step : Step} (hawaited : c.awaited? step = none)
    (hattempt : c.attempt? step = none) :
    c.callOccurrences step = [.made step (c.apply step).2.1] := by
  rw [callOccurrences, hawaited, hattempt]
  rfl

/-- Whoever takes the session down sees the last words of its service. -/
theorem callOccurrences_of_closes {step : Step} (h : step.closes = true) :
    c.callOccurrences step = .made step (c.apply step).2.1 :: c.lastWords := by
  cases step with
  | close | drop =>
    rw [callOccurrences, awaited?, Option.map_some, Option.getD_some, settleOccurrences_halt]
    exact congrArg _ (List.append_nil _)
  | _ => cases h

theorem apply_of_closes {step : Step} (h : step.closes = true) :
    (c.apply step).1 = (c.close .application).1 := by
  cases step with
  | close | drop => rfl
  | _ => cases h

theorem stage?_submitAll : ∀ (c : Client) (es : List Envelope),
    (c.submitAll es).1.stage? = c.stage?
  | _, [] => rfl
  | c, e :: es => (stage?_submitAll (c.submit e).1 es).trans (c.stage?_submit e)

theorem phase_push (c : Client) (item : Item) : (c.push item).1.phase = c.phase := by
  rcases c.push_cases item with ⟨s, stage, hs, hst, heq⟩ | ⟨-, heq⟩
  · rw [heq, phase_of_session hs rfl]
    exact Stage.phase_receive hst
  · rw [heq]

theorem stage?_act_of_ne {e : Event} {action : Action} (h : action ≠ .panic) :
    (c.act e action).1.stage? = c.stage? := by
  cases action with
  | join room => exact c.stage?_submit _
  | leave room => exact c.stage?_submit _
  | send room text => exact c.stage?_submit _
  | echo => exact c.stage?_submit _
  | close =>
    rw [act]
    split
    · exact c.stage?_requestStop
    · rfl
  | connect =>
    rw [act]
    split <;> rfl
  | panic => exact absurd rfl h
  | state | clearCallback | setCallback _ _ => rfl

theorem phase_act {e : Event} {action : Action} (h : action ≠ .panic) :
    (c.act e action).1.phase = c.phase :=
  phase_congr (stage?_act_of_ne h) (c.state_act e action)

/-- A frame goes to the callback if it carries an event and a callback is installed, and is passed
over if not. -/
theorem deliver_cases {item : Item} {frame : List UInt8} (hi : item.frame? = some frame)
    (c : Client) :
    (∃ (e : Event) (callback : Callback), item.delivery? c.callback = some (callback.name, e) ∧
      c.deliver frame = ((c.actAll e callback.actions).1,
        .event callback.name e :: (c.actAll e callback.actions).2)) ∨
    (item.delivery? c.callback = none ∧ c.deliver frame = (c, [])) := by
  unfold deliver
  rcases hd : Frame.decode frame with fault | e
  · exact .inr ⟨by simp [Item.delivery?, hi, hd, Except.toOption], rfl⟩
  · rcases c.callback with _ | callback
    · exact .inr ⟨by simp [Item.delivery?, hi], rfl⟩
    · exact .inl ⟨e, callback, by simp [Item.delivery?, hi, hd, Except.toOption], rfl⟩

theorem phase_crash (h : c.phase = .serving) : c.crash.phase = .broken := by
  rcases hs : c.stage? with _ | stage
  · rw [phase, hs] at h
    dsimp only at h
    split at h <;> cases h
  · rw [phase, stage?_crash, hs]
    rfl

theorem intake?_eq_some {item : Item} {inbox : List Item} (hs : c.session = some s)
    (hst : s.stage = .serving (item :: inbox) none) (stop : s.stopping = false)
    (hq : s.outbox.receive.1 = .pending) : c.intake? = some item := by
  simp [intake?, hs, hst, stop, hq]

/-- What is told of a turn that takes nothing out of the inbox. -/
theorem turnOccurrences_eq (ht : c.turn = some (c', es)) (hi : c.intake? = none) :
    c.turnOccurrences = es.map .logged ++ c.parting c' := by
  rw [turnOccurrences_of_turn ht, hi]
  rfl

/-! ## A call goes on with the course -/

/-- A step that leaves the client in its phase. -/
theorem course_made {step : Step} (h : Course hello chapter c.phase)
    (hstep : step.closes = false) (hmade : c.callOccurrences step = [.made step (c.apply step).2.1])
    (hphase : (c.apply step).1.phase = c.phase) :
    Course hello (chapter ++ c.callOccurrences step) (c.apply step).1.phase := by
  rw [hmade, hphase]
  exact h.made c.phase_steady hstep _

theorem course_expire (h : Course hello chapter c.phase) :
    Course hello (chapter ++ c.callOccurrences .expire) (c.apply .expire).1.phase := by
  rcases c.expire_cases with ⟨s, hs, hst, -, heq⟩ | heq
  · rw [phase_of_session hs hst] at h
    rw [callOccurrences_eq_made rfl rfl, apply_expire, heq]
    exact (h.snoc (.stays rfl _ _)).quits .held
  · exact course_made h rfl (callOccurrences_eq_made rfl rfl) (by rw [apply_expire, heq])

/-- The last words of a service go on with its course to the end, unless it broke down. -/
theorem course_lastWords (h : Course hello chapter c.phase) (hs : c.session = some s)
    (hst : s.stage ≠ .panicked) : Course hello (chapter ++ c.lastWords) .gone := by
  rw [phase_of_session hs rfl] at h
  rw [lastWords_of_session hs]
  cases hstage : s.stage with
  | held =>
    rw [hstage] at h
    exact (h.quits .held).snoc .leaves
  | greeting inbox =>
    rw [hstage] at h
    exact (h.quits .greeting).snoc₂ .hangsUp .leaves
  | serving inbox pending =>
    rw [hstage] at h
    exact (h.quits .serving).snoc₂ .hangsUp .leaves
  | leaving inbox =>
    rw [hstage] at h
    cases inbox with
    | none => exact h.snoc .leaves
    | some inbox => exact h.snoc₂ .hangsUp .leaves
  | parting farewell grace =>
    rw [hstage] at h
    exact h.snoc .leaves
  | ended =>
    rw [hstage] at h
    exact (List.append_nil chapter).symm ▸ h
  | panicked => exact absurd hstage hst

/-- The session, if there is one, is taken down. -/
theorem course_close {step : Step} (h : Course hello chapter c.phase) (hstep : step.closes = true) :
    Course hello (chapter ++ c.callOccurrences step) (c.apply step).1.phase := by
  rw [callOccurrences_of_closes hstep, apply_of_closes hstep]
  rcases hs : c.session with _ | s
  · rw [close_of_none hs, lastWords_of_none hs]
    refine h.snoc ?_
    rcases phase_of_none hs with hphase | hphase <;> rw [hphase] <;> exact .stays rfl _ _
  · rw [close_of_session hs]
    have hgone : c.down.phase = .gone := rfl
    rw [hgone]
    by_cases hst : s.stage = .panicked
    · rw [phase_of_session hs hst] at h
      rw [lastWords_of_session hs, hst]
      exact h.snoc (.noticed hstep _)
    · have hsteady : c.phase.isSteady = true := by
        rw [phase_of_session hs rfl]
        exact Stage.isSteady_phase hst
      rw [List.append_cons]
      exact course_lastWords (h.snoc (.stays hsteady _ _)) hs hst

/-- Where no session lives, the service of the last one is gone once it was waited for. -/
theorem course_reap (hc : Coherent settings c) (hlive : c.state.isLive = false)
    (h : Course hello chapter c.phase) (step : Step) (reply : Reply) :
    Course hello (chapter ++ .made step reply :: c.lastWords) c.reap.1.phase ∧
      (c.reap.1.phase = .before ∨ c.reap.1.phase = .gone) := by
  rcases hs : c.session with _ | s
  · rw [reap_of_none hs, lastWords_of_none hs]
    refine ⟨h.snoc ?_, phase_of_none hs⟩
    rcases phase_of_none hs with hphase | hphase <;> rw [hphase] <;> exact .stays rfl _ _
  · obtain ⟨hlooping, hclosed⟩ := hc.state_eq_closed hs hlive
    have hst : s.stage ≠ .panicked := by
      rintro hst
      rw [hc.state_eq hs hst] at hclosed
      cases hclosed
    have hsteady : c.phase.isSteady = true := by
      rw [phase_of_session hs rfl]
      exact Stage.isSteady_phase hst
    have hgone : c.reap.1.phase = .gone := by
      rw [reap_of_session hs, hlooping, phase]
      show (if c.state = .idle then Phase.before else .gone) = .gone
      rw [hclosed]
      rfl
    rw [hgone, List.append_cons]
    exact ⟨course_lastWords (h.snoc (.stays hsteady _ _)) hs hst, .inr rfl⟩

/-- A call that begins no attempt. -/
theorem course_apply (hc : Coherent settings c) (h : Course hello chapter c.phase) {step : Step}
    (hattempt : c.attempt? step = none) :
    Course hello (chapter ++ c.callOccurrences step) (c.apply step).1.phase := by
  cases step with
  | connect =>
    obtain ⟨error, ⟨heq, hcall⟩ | ⟨hr, heq, hcall⟩⟩ := connect_of_attempt?_eq_none hattempt
    · rw [hcall, apply_connect, heq]
      exact h.made c.phase_steady rfl _
    · rw [hcall, apply_connect, heq]
      exact (course_reap hc (refusal?_eq_none.1 hr).2 h _ _).1
  | expire => exact course_expire h
  | submit e =>
    exact course_made h rfl (callOccurrences_eq_made rfl rfl)
      (phase_congr (c.stage?_submit e) (c.state_submit e))
  | submitAll es =>
    exact course_made h rfl (callOccurrences_eq_made rfl rfl)
      (phase_congr (c.stage?_submitAll es) (c.state_submitAll es))
  | push item => exact course_made h rfl (callOccurrences_eq_made rfl rfl) (c.phase_push item)
  | close | drop => exact course_close h rfl
  | release | configure _ | setCallback _ | clearCallback | observe | describe | settings =>
    exact course_made h rfl (callOccurrences_eq_made rfl rfl) rfl

/-- An attempt begins where none was begun, or after the service of the last one is gone, and it is
held at first. -/
theorem course_begun (hc : Coherent settings c) (h : Course hello chapter c.phase) {step : Step}
    {url : String} (hattempt : c.attempt? step = some url) :
    (Course hello (chapter ++ .made step (.called .ok) :: c.lastWords) .before ∨
        Course hello (chapter ++ .made step (.called .ok) :: c.lastWords) .gone) ∧
      Course hello [.logged (.connect url)] c.begin.phase := by
  obtain ⟨-, hr, -⟩ := attempt?_eq_some hattempt
  obtain ⟨hcourse, hphase⟩ := course_reap hc (refusal?_eq_none.1 hr).2 h step (.called .ok)
  refine ⟨?_, Course.start.snoc (.begins url)⟩
  rcases hphase with hphase | hphase <;> rw [hphase] at hcourse
  · exact .inl hcourse
  · exact .inr hcourse

/-! ## A turn goes on with the course -/

theorem course_actAll (e : Event) : ∀ {c : Client} {chapter : List Occurrence}
    (actions : List Action), c.phase = .serving → Course hello chapter .serving →
      (c.actAll e actions).1.phase = .serving ∧
          Course hello (chapter ++ (c.actAll e actions).2.map .logged) .serving ∨
        (c.actAll e actions).1.phase = .broken ∧
          Course hello (chapter ++ (c.actAll e actions).2.map .logged) .breaking
  | c, chapter, [], hphase, h => by
    refine .inl ⟨hphase, ?_⟩
    rwa [actAll, List.map_nil, List.append_nil]
  | c, chapter, action :: rest, hphase, h => by
    unfold actAll
    split
    · next hn => cases hn
    · next hp =>
      obtain ⟨rfl, rfl⟩ := List.cons.inj hp
      exact .inr ⟨phase_crash hphase, h.snoc (.panics _)⟩
    · next hne hc =>
      obtain ⟨rfl, rfl⟩ := List.cons.inj hc
      dsimp only
      rw [List.map_cons, List.append_cons]
      exact course_actAll e rest ((phase_act hne).trans hphase) (h.snoc (.acts hne _))

theorem course_greets {inbox : List Item} (h : Course c₁.greeting chapter c.phase)
    (hp : c.phase = .held ∨ c.phase = .greeting) (hg : Greets c₁ s₁ inbox c' es) :
    Course c₁.greeting (chapter ++ (es.map .logged ++ c.parting c')) c'.phase := by
  cases hg with
  | fails _ =>
    rw [parting_of_isServed rfl, List.append_nil]
    exact h.snoc (.greetingFails hp)
  | arrives _ =>
    rw [parting_of_isServed rfl, List.append_nil]
    exact h.snoc (.greets hp)

theorem course_writes {inbox : List Item} {e : Envelope} (h : Course hello chapter .serving)
    (hw : Writes c s₁ inbox e c' es) :
    Course hello (chapter ++ (es.map .logged ++ c.parting c')) c'.phase := by
  cases hw with
  | fails _ =>
    rw [parting_of_isServed rfl, List.append_nil]
    exact h.snoc (.writeFails _)
  | arrives _ =>
    rw [parting_of_isServed rfl, List.append_nil]
    exact h.snoc (.writes _)

/-- A frame is consumed, and the callback is called if there is an event and a callback. -/
theorem course_deliver {item : Item} {frame : List UInt8} (h : Course hello chapter .serving)
    (hi : item.frame? = some frame) (hp : c.phase = .serving) (hp₁ : c₁.phase = .serving)
    (hcallback : c₁.callback = c.callback) :
    Course hello (chapter ++ (.consumed item c.callback ::
        ((c₁.deliver frame).2.map .logged ++ c.parting (c₁.deliver frame).1)))
      (c₁.deliver frame).1.phase := by
  rw [← hcallback]
  rcases c₁.deliver_cases hi with ⟨e, callback, hd, heq⟩ | ⟨hd, heq⟩
  · rw [heq]
    have hcalled := h.snoc₂ (.calls hd) (.delivers callback.name e)
    rcases course_actAll e callback.actions hp₁ hcalled with ⟨hphase, hacted⟩ | ⟨hphase, hacted⟩
    · rw [parting_of_phase_eq (hphase.trans hp.symm), List.append_nil, hphase]
      simpa using hacted
    · have hserved : c.isServed = true := by rw [isServed_eq, hp]; rfl
      have hgone : (c₁.actAll e callback.actions).1.isServed = false := by
        rw [isServed_eq, hphase]
        rfl
      rw [parting_of_ends hserved hgone, hphase]
      simpa using hacted.snoc .breaks
  · rw [heq, parting_of_phase_eq (hp₁.trans hp.symm), hp₁]
    exact h.snoc (.passes (by rw [hi]; rfl) hd)

/-- An item is consumed : it ends the service, or a frame is delivered. -/
theorem course_consume {item : Item} (h : Course c.greeting chapter c.phase)
    (ht : c.turn = some (c', es)) (hitem : c.intake? = some item) :
    Course c.greeting (chapter ++ c.turnOccurrences) c'.phase := by
  obtain ⟨s, inbox, hs, hst, hconsume⟩ := exists_consume_of_intake? hitem
  have hserving : c.phase = .serving := phase_of_session hs hst
  rw [hserving] at h
  rw [turnOccurrences_of_turn ht, hitem]
  rw [hconsume, Option.some.injEq, consume] at ht
  cases hi : item.frame? with
  | none =>
    rw [hi] at ht
    obtain ⟨rfl, rfl⟩ := Prod.mk.inj ht
    rw [parting_of_isServed rfl]
    exact h.snoc (.ends hi _)
  | some frame =>
    rw [hi] at ht
    obtain ⟨rfl, rfl⟩ := Prod.mk.inj ht
    exact course_deliver h hi hserving rfl rfl

theorem course_turn (h : Course c.greeting chapter c.phase) (ht : c.turn = some (c', es)) :
    Course c.greeting (chapter ++ c.turnOccurrences) c'.phase := by
  cases hitem : c.intake? with
  | some item => exact course_consume h ht hitem
  | none =>
    rw [turnOccurrences_eq ht hitem]
    obtain ⟨s, hs, hturns⟩ := turns_of_turn ht
    have hcurrent : ∀ {stage : Stage}, s.stage = stage → Course c.greeting chapter stage.phase :=
      fun hst => phase_of_session hs hst ▸ h
    cases hturns with
    | givesUp hst stop =>
      rw [parting_of_isServed rfl]
      exact (List.append_nil chapter).symm ▸ (hcurrent hst).quits .held
    | @quits inbox hst stop =>
      rw [parting_of_isServed rfl]
      show Course c.greeting (chapter ++ []) .closing
      rw [List.append_nil]
      cases hstage : s.stage with
      | greeting _ => exact (hcurrent hstage).quits .greeting
      | serving _ _ => exact (hcurrent hstage).quits .serving
      | held | leaving _ | parting _ _ | ended | panicked =>
        rw [hstage] at hst
        cases hst
    | refused hst stop hp hr =>
      rw [parting_of_isServed rfl]
      exact (hcurrent hst).snoc .refused
    | greetingWaits hst stop hp hr hd =>
      rw [parting_of_isServed rfl]
      exact (hcurrent hst).snoc .waits
    | @enters peer _ _ hst stop hp hr hg =>
      have hgreeting : (c.entered peer).greeting = c.greeting := rfl
      rw [← hgreeting] at h ⊢
      exact course_greets h (.inl (phase_of_session hs hst)) hg
    | greets hst stop hg => exact course_greets h (.inr (phase_of_session hs hst)) hg
    | writeWaits hst stop hq hd =>
      rw [parting_of_isServed rfl]
      exact (hcurrent hst).snoc (.writeWaits _)
    | writesNext hst stop hq hw => exact course_writes (hcurrent hst) hw
    | writesPending hst stop hw => exact course_writes (hcurrent hst) hw
    | deserted hst stop hq =>
      rw [parting_of_isServed rfl]
      exact (List.append_nil chapter).symm ▸ (hcurrent hst).quits .serving
    | ends hst stop hq hi | consumes hst stop hq hi =>
      rw [intake?_eq_some hs hst stop hq] at hitem
      cases hitem
    | closes hst =>
      rw [parting_of_isServed rfl]
      exact (hcurrent hst).snoc .hangsUp
    | @awaits farewell grace hst =>
      have hserved : c.isServed = true := isServed_of_stage? (stage?_of_session hs hst)
      rcases farewell.await_cases grace with hawait | ⟨grace', hawait⟩
      · rw [hawait, parting_of_ends hserved rfl]
        exact (hcurrent hst).snoc .leaves
      · rw [hawait, parting_of_isServed rfl]
        exact (List.append_nil chapter).symm ▸ hcurrent hst
    | returns hst =>
      rw [parting_of_ends (isServed_of_stage? (stage?_of_session hs hst)) rfl]
      exact (hcurrent hst).snoc .leaves

/-! ## The client follows its course -/

/-- The chapters are courses, and the client is in the phase to which the current one leads. -/
structure Follows (settings : Settings) (c : Client) (told : List Occurrence) : Prop where
  coherent : Coherent settings c
  past : ∀ chapter ∈ (chapters told).past,
    Course settings.greeting chapter .before ∨ Course settings.greeting chapter .gone
  current : Course settings.greeting (chapters told).current c.phase

/-- Every chapter leads to a phase in which a client rests. -/
theorem Follows.exists_course (h : Follows settings c told)
    (hchapter : chapter ∈ (chapters told).all) :
    ∃ p, Course settings.greeting chapter p ∧ (p.isSteady = true ∨ p = .broken) := by
  rcases List.mem_append.1 hchapter with hchapter | hchapter
  · rcases h.past chapter hchapter with hcourse | hcourse
    · exact ⟨_, hcourse, .inl rfl⟩
    · exact ⟨_, hcourse, .inl rfl⟩
  · rw [List.mem_singleton.1 hchapter]
    exact ⟨_, h.current, c.phase_steady⟩

theorem follows_chronicle (reader : Address.Reader) (settings : Settings) (moves : List Move) :
    ∃ c, Follows settings c (chronicle reader settings moves).2 ∧
      ∀ c' ∈ (chronicle reader settings moves).1, c' = c := by
  have hgreeting : ∀ {c : Client}, Coherent settings c → c.greeting = settings.greeting := by
    intro c hc
    rw [greeting, hc.settings_eq]
    rfl
  obtain ⟨c, ⟨hpast, hcoherent, hcurrent⟩, hclient⟩ := chapters_invariant
    (fun c chapter => Coherent settings c ∧ Course settings.greeting chapter c.phase)
    (fun chapter => Course settings.greeting chapter .before ∨
      Course settings.greeting chapter .gone)
    (fun h hattempt => ⟨(course_begun h.1 h.2 hattempt).1, .begin h.1.settings_eq,
      (course_begun h.1 h.2 hattempt).2⟩)
    (fun h hattempt => ⟨h.1.apply _, course_apply h.1 h.2 hattempt⟩)
    (fun h ht => ⟨h.1.turn ht, hgreeting h.1 ▸ course_turn ((hgreeting h.1).symm ▸ h.2) ht⟩)
    ⟨.new reader settings, .start⟩ moves
  exact ⟨c, ⟨hcoherent, hpast, hcurrent⟩, hclient⟩

end Client

end ChatLink
