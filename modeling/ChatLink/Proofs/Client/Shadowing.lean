import ChatLink.Proofs.Client.Interleaving

/-!
# Clients that follow the threads

Whatever two threads do to the state of a client in some interleaving, a client that makes whole
calls and lets its service take whole turns can follow them (`Client.Shadows`) : it does nothing as
long as a thread is in the middle of something, and makes its call or its turn when the thread does
the operation by which others notice. A service takes the turn that the server lets it take, so the
client has the server behave as the thread was treated. Only a caller who closes is ahead of the
threads : the client is closed at once, where the thread of the service has its end still before it
(`Threads.ahead`).

So where no call is under way, and the service is between two turns, some client shows what the
threads have come to, and the same was seen of both (`Run.exists_client`). It is only in the middle
of a call or of a turn that more is possible for the threads : a service that has just connected may
be overtaken there by a caller who closes, in the middle of its advance (`Run.outlives_overtaken`).
-/

namespace ChatLink

/-- Whoever has these settings, and reads endpoints like this, can try to connect. -/
def Settings.IsUsable (reader : Address.Reader) (settings : Settings) : Prop :=
  settings.check = .ok () ∧ ∃ endpoint, Endpoint.parse reader settings.endpoint = .ok endpoint

/-! ## What the threads do -/

/-- The service is between two turns. -/
def Worker.isResting : Worker → Bool
  | opening | greeting | serving | parting | gone => true
  | advancing _ _ | leaving => false

/-- No call is under way, and the service is between two turns. -/
def Threads.IsAtRest (t : Threads) : Prop := t.caller = .free ∧ t.worker.isResting = true

/-- What is seen of a client at once, and of its threads later : a caller who closes waits for the
end of the service. -/
def Threads.ahead (t : Threads) : List Mark :=
  match t.caller with
  | .stopping | .waiting | .joined | .returning => t.worker.owed
  | .free | .reaping | .starting | .readying _ | .spawning _ | .closing => []

/-- An advance from an earlier state goes on, or is granted. -/
theorem Advances.cases_of_lt {target s s' : Lifecycle} {a a' : Advance}
    (h : Advances target s a s' a') (hs : s < target) :
    s' = s ∧ a'.outcome? = none ∨ s' = target ∧ a' = .done true := by
  have hlook : (Advance.look target s).outcome? = none := by
    rw [Advance.outcome?_look, if_pos hs]
  cases h with
  | loads | misses => exact .inl ⟨rfl, hlook⟩
  | swaps => exact .inr ⟨rfl, rfl⟩

namespace Works

variable {s s' : Lifecycle} {w w' : Worker} {deed : Deed}

theorem ne_gone (h : Works s w deed s' w') : w ≠ .gone := by
  rintro rfl
  cases h with
  | leaves _ hw => cases hw

/-- Of an operation it is seen whether it is the end of the service. -/
theorem owed_eq (h : Works s w deed s' w') : w.owed = deed.mark?.toList ++ w'.owed := by
  cases h with
  | leaves _ hw => exact Worker.owed_of_ne_gone (by rintro rfl; cases hw)
  | _ => rfl

end Works

namespace Client

variable {reader : Address.Reader} {settings : Settings} {c c' : Client} {marks : List Mark}
  {es : List Entry} {s s' : Lifecycle} {w w' : Worker} {deed : Deed}
  {stage stage' : Stage} {inbox : Option (List Item)}

/-! ## What a client can come to -/

/-- The client with a server that lets attempts in and transports be closed, and that refuses
attempts, has writes wait, and has them fail, or not. -/
def facing (c : Client) (refuse stall fail : Bool) : Client :=
  { c with peer := ⟨false, refuse, stall, fail, false, false, c.peer.permits⟩ }

/-- A client with these settings can come to this, and these marks are seen on the way. -/
def IsReached (reader : Address.Reader) (settings : Settings) (marks : List Mark) (c : Client) :
    Prop :=
  ∃ moves, (chronicle reader settings moves).1 = some c ∧
    (chronicle reader settings moves).2.filterMap Occurrence.mark? = marks

namespace IsReached

theorem initial (reader : Address.Reader) (settings : Settings) :
    IsReached reader settings [] (.new reader settings) :=
  ⟨[], rfl, rfl⟩

theorem coherent (h : IsReached reader settings marks c) :
    Coherent settings c ∧ c.reader = reader := by
  obtain ⟨moves, hc, -⟩ := h
  have hinvariant : ∃ c', (Coherent settings c' ∧ c'.reader = reader) ∧
      ∀ c'' ∈ (chronicle reader settings moves).1, c'' = c' :=
    chronicle_invariant (fun c _ => Coherent settings c ∧ c.reader = reader)
      (fun step h => ⟨h.1.apply step, (reader_apply _ step).trans h.2⟩)
      (fun h ht => ⟨h.1.turn ht, (reader_turn ht).trans h.2⟩) ⟨.new reader settings, rfl⟩ moves
  obtain ⟨c', h, hclient⟩ := hinvariant
  exact hclient c hc ▸ h

theorem call (h : IsReached reader settings marks c) (step : Step) :
    IsReached reader settings (marks ++ (c.callOccurrences step).filterMap Occurrence.mark?)
      (c.apply step).1 := by
  obtain ⟨moves, hc, rfl⟩ := h
  refine ⟨moves ++ [.call step], ?_, ?_⟩
  · rw [chronicle_snoc, recounted, hc]
    rfl
  · rw [chronicle_snoc, recounted, hc, List.filterMap_append]
    rfl

theorem turn (h : IsReached reader settings marks c) (ht : c.turn = some (c', es)) :
    IsReached reader settings (marks ++ (c.parting c').filterMap Occurrence.mark?) c' := by
  obtain ⟨moves, hc, rfl⟩ := h
  refine ⟨moves ++ [.turn], ?_, ?_⟩
  · rw [chronicle_snoc, recounted, hc, move, takeTurn, ht]
  · rw [chronicle_snoc, recounted, hc, List.filterMap_append]
    exact congrArg _ (marks_turnOccurrences ht)

/-- A turn after which there is still a service. -/
theorem goes (h : IsReached reader settings marks c) (ht : c.turn = some (c', es))
    (hserved : c'.isServed = true) : IsReached reader settings marks c' := by
  simpa [parting_of_isServed hserved] using h.turn ht

/-- A turn that is the last one. -/
theorem ends (h : IsReached reader settings marks c) (ht : c.turn = some (c', es))
    (hgone : c'.isServed = false) : IsReached reader settings (marks ++ [.ends]) c' := by
  simpa [parting_of_ends (isServed_of_turn ht) hgone, Occurrence.mark?] using h.turn ht

/-- A call of which nothing is seen. -/
theorem calls (h : IsReached reader settings marks c) (step : Step) (hstep : step.closes = false)
    (hawaited : c.awaited? step = none) (hattempt : c.attempt? step = none) :
    IsReached reader settings marks (c.apply step).1 := by
  have hcall := h.call step
  rwa [callOccurrences_eq_made hawaited hattempt, marks_made hstep, List.append_nil] at hcall

/-- The server behaves like this. -/
theorem configure (h : IsReached reader settings marks c) (refuse stall fail : Bool) :
    IsReached reader settings marks (c.facing refuse stall fail) :=
  h.calls (.configure ⟨some false, some refuse, some stall, some fail, some false, some false⟩)
    rfl rfl rfl

theorem push (h : IsReached reader settings marks c) (item : Item) :
    IsReached reader settings marks (c.push item).1 :=
  h.calls (.push item) rfl rfl rfl

theorem setCallback (h : IsReached reader settings marks c) (callback : Callback) :
    IsReached reader settings marks { c with callback := some callback } :=
  h.calls (.setCallback callback) rfl rfl rfl

end IsReached

/-! ## What a service can be made to do -/

/-- The service is in this stage, has nothing in its outbox, and was not asked to stop. -/
def Attends (stage : Stage) (c : Client) : Prop :=
  ∃ thread, c.session = some ⟨thread, stage, .initial, false⟩

theorem Attends.isSome (h : Attends stage c) : c.session.isSome = true := by
  obtain ⟨thread, hs⟩ := h
  rw [hs]
  rfl

theorem Attends.worker_eq (h : Attends stage c) : c.worker = stage.worker := by
  obtain ⟨thread, hs⟩ := h
  exact worker_of_session hs

/-- What a server can make of a service with one turn. -/
inductive Leads : Stage → Stage → Prop
  | enters : Leads .held (.greeting [])
  | refused : Leads .held (.leaving none)
  | greets : Leads (.greeting []) (.serving [] none)
  | fails : Leads (.greeting []) (.leaving (some []))
  | deserted : Leads (.serving [] none) (.leaving (some []))
  | closes : Leads (.leaving (some [])) (.parting .done Service.closeGrace)

/-- A frame that carries an event. -/
def frame : String :=
  "\x7b\"type\":\"event\",\"event\":\"message\",\"data\":\x7b" ++
    "\"room\":\"r\",\"user\":\"u\",\"text\":\"t\"\x7d\x7d"

theorem decode_frame_eq : Frame.decode frame.toUTF8.toList = .ok ⟨"r", "u", "t", 0⟩ := by
  decide +kernel

namespace IsReached

variable {session : Session}

/-- A turn that the service takes where the server behaves like this. -/
theorem behaves (h : IsReached reader settings marks c) (refuse stall fail : Bool)
    (hs : c.session = some session)
    (ht : (c.facing refuse stall fail).turnOf session = some (c', es))
    (hserved : c'.isServed = true) : IsReached reader settings marks c' :=
  (h.configure refuse stall fail).goes
    ((turn_of_session (show (c.facing refuse stall fail).session = _ from hs)).trans ht) hserved

/-- The service finds an item in its inbox. -/
theorem receive (h : IsReached reader settings marks c) (ha : Attends (.serving [] none) c)
    (item : Item) :
    ∃ c', IsReached reader settings marks c' ∧ Attends (.serving [item] none) c' ∧
      c'.callback = c.callback := by
  obtain ⟨thread, hs⟩ := ha
  have hpush : c.push item =
      (c.withSession ⟨thread, .serving [item] none, .initial, false⟩, true) := by
    rw [Client.push, hs]
    rfl
  have hpushed := h.push item
  rw [hpush] at hpushed
  exact ⟨_, hpushed, ⟨thread, rfl⟩, rfl⟩

/-- The server makes this of the service. -/
theorem lead (h : IsReached reader settings marks c) (ha : Attends stage c)
    (hl : Leads stage stage') :
    ∃ c', IsReached reader settings marks c' ∧ Attends stage' c' := by
  obtain ⟨thread, hs⟩ := ha
  cases hl with
  | enters => exact ⟨_, h.behaves false true false hs rfl rfl, thread, rfl⟩
  | refused => exact ⟨_, h.behaves true false false hs rfl rfl, thread, rfl⟩
  | greets => exact ⟨_, h.behaves false false false hs rfl rfl, thread, rfl⟩
  | fails => exact ⟨_, h.behaves false false true hs rfl rfl, thread, rfl⟩
  | closes => exact ⟨_, h.behaves false false false hs rfl rfl, thread, rfl⟩
  | deserted =>
    obtain ⟨c₁, h₁, ⟨thread, hs₁⟩, -⟩ := h.receive ⟨thread, hs⟩ .gone
    exact ⟨_, h₁.behaves false false false hs₁ rfl rfl, thread, rfl⟩

/-- The service is made to end. -/
theorem part (h : IsReached reader settings marks c) (ha : Attends (.leaving inbox) c)
    (hinbox : inbox = none ∨ inbox = some []) :
    ∃ c', IsReached reader settings (marks ++ [.ends]) c' ∧ c'.stage? = some .ended := by
  rcases hinbox with rfl | rfl
  · obtain ⟨thread, hs⟩ := ha
    exact ⟨_, h.ends (turn_of_session hs) rfl, rfl⟩
  · obtain ⟨c₁, h₁, thread, hs⟩ := h.lead ha .closes
    exact ⟨_, h₁.ends (turn_of_session hs) rfl, rfl⟩

/-- A callback breaks the service down. -/
theorem panic (h : IsReached reader settings marks c) (ha : Attends (.serving [] none) c) :
    ∃ c', IsReached reader settings (marks ++ [.ends]) c' ∧ c'.stage? = some .panicked := by
  let callback : Callback := ⟨"f", [.panic]⟩
  have ha₁ : Attends (.serving [] none) { c with callback := some callback } := ha
  obtain ⟨c₁, h₁, ⟨thread, hs⟩, hcallback⟩ := (h.setCallback callback).receive ha₁ (.text frame)
  let served := c₁.withSession ⟨thread, .serving [] none, .initial, false⟩
  have hturn : c₁.turn = some (served.deliver frame.toUTF8.toList) :=
    (turn_of_session hs).trans rfl
  have hdeliver : served.deliver frame.toUTF8.toList =
      (served.crash, [.event "f" ⟨"r", "u", "t", 0⟩, .acted .panic .nothing]) := by
    rw [deliver, decode_frame_eq, show served.callback = some callback from hcallback]
    rfl
  rw [hdeliver] at hturn
  exact ⟨_, h₁.ends hturn rfl, rfl⟩

end IsReached

/-- Where the service of a client stands when its thread stands here. -/
inductive Stands : Worker → Stage → Prop
  | opening : Stands .opening .held
  | entering {a : Advance} (ha : a.outcome? = none) : Stands (.advancing .established a) .held
  | entered : Stands (.advancing .established (.done true)) (.greeting [])
  | greeting : Stands .greeting (.greeting [])
  | greeted {a : Advance} (ha : a.outcome? = none) : Stands (.advancing .active a) (.greeting [])
  | welcomed : Stands (.advancing .active (.done true)) (.serving [] none)
  | serving : Stands .serving (.serving [] none)
  | leaving {w : Worker} {stage : Stage} (hw : w.canLeave = true) (h : Stands w stage) :
    Stands .leaving stage
  | parting {inbox : Option (List Item)} (hinbox : inbox = none ∨ inbox = some []) :
    Stands .parting (.leaving inbox)

theorem Stands.owed_eq (h : Stands w stage) : stage.worker.owed = w.owed := by
  induction h with
  | leaving hw h ih => exact ih.trans (Worker.owed_of_ne_gone (by rintro rfl; cases hw))
  | _ => rfl

/-- The client shows this state and a thread that stands here. -/
structure Mirrors (c : Client) (s : Lifecycle) (w : Worker) : Prop where
  state_eq : c.state = s
  stands : (∃ stage, Stands w stage ∧ Attends stage c) ∨ w = .gone ∧ c.worker = .gone

/-- Some client with these settings shows this state and a thread that stands here, and has a
session at hand. -/
def IsMirrored (reader : Address.Reader) (settings : Settings) (marks : List Mark) (s : Lifecycle)
    (w : Worker) : Prop :=
  ∃ c, IsReached reader settings marks c ∧ Mirrors c s w ∧ c.session.isSome = true

/-- A thread that is between two turns stands where the client shows it. -/
theorem Mirrors.worker_eq (h : Mirrors c s w) (hw : w.isResting = true) : c.worker = w := by
  rcases h.stands with ⟨stage, hst, ha⟩ | ⟨rfl, hworker⟩
  · rw [ha.worker_eq]
    cases hst with
    | opening | greeting | serving | parting => rfl
    | entering | entered | greeted | welcomed | leaving => cases hw
  · exact hworker

theorem Mirrors.owed_eq (h : Mirrors c s w) : c.worker.owed = w.owed := by
  rcases h.stands with ⟨stage, hst, ha⟩ | ⟨rfl, hworker⟩
  · rw [ha.worker_eq, hst.owed_eq]
  · rw [hworker]

namespace IsReached

/-- The state is that of the stage. -/
theorem attend (h : IsReached reader settings marks c) (ha : Attends stage c)
    (hst : Stands w stage) : IsMirrored reader settings marks stage.state w := by
  obtain ⟨thread, hs⟩ := id ha
  exact ⟨c, h, ⟨h.coherent.1.state_of_session hs, .inl ⟨stage, hst, ha⟩⟩, ha.isSome⟩

/-- The client follows its service with one turn. -/
theorem follow (h : IsReached reader settings marks c) (ha : Attends stage c)
    (hl : Leads stage stage') (hst : Stands w stage') :
    IsMirrored reader settings marks stage'.state w := by
  obtain ⟨c', h', ha'⟩ := h.lead ha hl
  exact h'.attend ha' hst

/-- A service that is no more. -/
theorem rest (h : IsReached reader settings marks c) (hst : c.stage? = some stage)
    (hgone : stage.worker = .gone) : IsMirrored reader settings marks stage.state .gone := by
  obtain ⟨session, hs, rfl⟩ := Option.map_eq_some_iff.1 hst
  have hworker : c.worker = .gone := (worker_of_session hs).trans hgone
  exact ⟨c, h, ⟨h.coherent.1.state_of_session hs, .inr ⟨rfl, hworker⟩⟩,
    Option.isSome_iff_exists.2 ⟨session, hs⟩⟩

/-- The client follows its service in an advance when it is granted. -/
theorem advance {target : Lifecycle} {a a' : Advance} (h : IsReached reader settings marks c)
    (ha : Attends stage c) (hst : Stands (.advancing target a) stage)
    (hadv : Advances target stage.state a s' a') :
    IsMirrored reader settings marks s' (.advancing target a') := by
  cases hst with
  | entering hopen =>
    rcases hadv.cases_of_lt (show Lifecycle.connecting < .established by decide) with
      ⟨rfl, hopen'⟩ | ⟨rfl, rfl⟩
    · exact h.attend ha (.entering hopen')
    · exact h.follow ha .enters .entered
  | greeted hopen =>
    rcases hadv.cases_of_lt (show Lifecycle.established < .active by decide) with
      ⟨rfl, hopen'⟩ | ⟨rfl, rfl⟩
    · exact h.attend ha (.greeted hopen')
    · exact h.follow ha .greets .welcomed
  | entered | welcomed => cases hadv

/-- The service is made to leave its loop. -/
theorem leave (h : IsReached reader settings marks c) (ha : Attends stage c)
    (hst : Stands .leaving stage) : IsMirrored reader settings marks .closed .parting := by
  cases hst with
  | leaving hw hst =>
    cases hst with
    | opening => exact h.follow ha .refused (.parting (.inl rfl))
    | greeting => exact h.follow ha .fails (.parting (.inr rfl))
    | serving => exact h.follow ha .deserted (.parting (.inr rfl))
    | entering | entered | greeted | welcomed | leaving | parting => cases hw

end IsReached

/-- The client follows its service. -/
theorem Mirrors.works (h : IsReached reader settings marks c) (hc : Mirrors c s w)
    (hw : ChatLink.Works s w deed s' w') :
    IsMirrored reader settings (marks ++ deed.mark?.toList) s' w' := by
  obtain ⟨stage, hst, ha⟩ := hc.stands.resolve_right fun ⟨hgone, _⟩ => hw.ne_gone hgone
  obtain rfl : stage.state = s := by
    obtain ⟨thread, hs⟩ := ha
    exact (h.coherent.1.state_of_session hs).symm.trans hc.state_eq
  have hunseen : deed.mark? = none → IsMirrored reader settings marks s' w' →
      IsMirrored reader settings (marks ++ deed.mark?.toList) s' w' := by
    intro hd hmirrored
    rwa [hd, Option.toList_none, List.append_nil]
  -- each operation is possible in few stages only, and mostly the client needs no turn for it
  cases hw with
  | opens =>
    cases hst with
    | opening => exact hunseen rfl (h.attend ha (.entering rfl))
  | advances hadv => exact hunseen rfl (h.advance ha hst hadv)
  | greets s granted =>
    cases hst with
    | entering hopen => cases hopen
    | entered => exact hunseen rfl (h.attend ha .greeting)
  | greeted =>
    cases hst with
    | greeting => exact hunseen rfl (h.attend ha (.greeted rfl))
  | serves s granted =>
    cases hst with
    | greeted hopen => cases hopen
    | welcomed => exact hunseen rfl (h.attend ha .serving)
  | leaves _ hleave => exact hunseen rfl (h.attend ha (.leaving hleave hst))
  | breaks =>
    cases hst with
    | serving =>
      obtain ⟨c', h', hbroken⟩ := h.panic ha
      exact (h'.rest hbroken rfl :)
  | forces => exact hunseen rfl (h.leave ha hst)
  | ends =>
    cases hst with
    | parting hinbox =>
      obtain ⟨c', h', hended⟩ := h.part ha hinbox
      exact (h'.rest hended rfl :)

/-! ## Clients that follow both threads -/

/-- The client shows the threads as far as they have come. A call that is under way was not made
yet, or it is a call to close that the service knows of : that one was made and is over. -/
def Shadows (c : Client) : Threads → Prop
  | ⟨s, .free, session, w⟩ => Mirrors c s w ∧ (session = true → c.session.isSome = true)
  | ⟨s, .closing, _, w⟩ => Mirrors c s w ∧ c.session.isSome = true
  | ⟨s, .reaping, _, w⟩ | ⟨s, .starting, _, w⟩ | ⟨s, .readying _, _, w⟩ => Mirrors c s w
  | ⟨_, .spawning previous, _, w⟩ => Mirrors c previous w
  | ⟨_, .stopping, _, _⟩ | ⟨_, .waiting, _, _⟩ | ⟨_, .joined, _, _⟩ | ⟨_, .returning, _, _⟩ =>
    c.session = none ∧ c.state = .closed

namespace IsReached

/-- An attempt begins where the service is gone. -/
theorem connect (h : IsReached reader settings marks c) (hu : settings.IsUsable reader)
    (hc : Mirrors c s .gone) (hs : s.isLive = false) :
    IsMirrored reader settings (marks ++ [.begins]) .connecting .opening := by
  obtain ⟨hcoherent, hreader⟩ := h.coherent
  obtain ⟨hcheck, endpoint, hparse⟩ := hu
  have hrefusal : c.refusal? .application = none := by
    rw [refusal?_eq_none, hcoherent.settings_eq, hc.state_eq]
    exact ⟨hcheck, hs⟩
  have hattempt : c.attempt? .connect = some endpoint.text := by
    rw [attempt?, if_pos hrefusal, hreader, hcoherent.settings_eq, hparse]
    rfl
  have hbegin : (c.apply .connect).1 = c.begin := by
    rw [apply_connect, (attempt?_eq_some hattempt).2.2]
  have hcall := h.call .connect
  rw [callOccurrences_of_begins hattempt, List.filterMap_cons_none (by rfl), List.filterMap_append,
    marks_lastWords, hc.owed_eq, hbegin] at hcall
  exact hcall.attend ⟨c.threads, rfl⟩ .opening

/-- What is seen of a call to close. -/
theorem close (h : IsReached reader settings marks c) (hc : Mirrors c s w) :
    IsReached reader settings (marks ++ .closes :: w.owed) (c.close .application).1 := by
  have hcall := h.call .close
  rwa [callOccurrences_of_closes rfl, apply_of_closes rfl, List.filterMap_cons_some (by rfl),
    marks_lastWords, hc.owed_eq] at hcall

/-- A call to close where the service is gone and the state is none of a service. -/
theorem skip (h : IsReached reader settings marks c) (hc : Mirrors c s .gone)
    (hs : s = .idle ∨ s = .closed) :
    ∃ c', IsReached reader settings (marks ++ [.closes]) c' ∧ Mirrors c' s .gone := by
  refine ⟨_, h.close hc, ?_⟩
  rcases hsession : c.session with _ | session
  · rw [close_of_none hsession]
    exact hc
  · rw [close_of_session hsession]
    obtain rfl : s = .closed := by
      refine hs.resolve_left fun hs => ?_
      have hidle := h.coherent.1.session_of_idle (hc.state_eq.trans hs)
      cases hidle.symm.trans hsession
    exact ⟨rfl, .inr ⟨rfl, rfl⟩⟩

end IsReached

namespace Shadows

variable {t t' : Threads} {deeds : List Deed}

/-- An operation of the service. -/
theorem works {caller : Caller} {session : Bool} (hsound : Sound deeds ⟨s, caller, session, w⟩)
    (hw : ChatLink.Works s w deed s' w')
    (h : IsReached reader settings (marks ++ Threads.ahead ⟨s, caller, session, w⟩) c)
    (hc : Shadows c ⟨s, caller, session, w⟩) :
    ∃ c', IsReached reader settings
      (marks ++ deed.mark?.toList ++ Threads.ahead ⟨s', caller, session, w'⟩) c' ∧
        Shadows c' ⟨s', caller, session, w'⟩ := by
  cases caller with
  | free =>
    obtain ⟨c', hc', hmirrors, hsome⟩ := hc.1.works (by simpa [Threads.ahead] using h) hw
    exact ⟨c', by simpa [Threads.ahead] using hc', hmirrors, fun _ => hsome⟩
  | closing =>
    obtain ⟨c', hc', hmirrors⟩ := hc.1.works (by simpa [Threads.ahead] using h) hw
    exact ⟨c', by simpa [Threads.ahead] using hc', hmirrors⟩
  | reaping =>
    obtain ⟨c', hc', hmirrors, -⟩ := Mirrors.works (by simpa [Threads.ahead] using h) hc hw
    exact ⟨c', by simpa [Threads.ahead] using hc', hmirrors⟩
  | starting | readying _ | spawning _ =>
    exact absurd (hsound.gone (hsound.handle nofun) rfl) hw.ne_gone
  | stopping | waiting | joined | returning =>
    -- the client is closed already, and was seen to end
    rw [Threads.ahead, hw.owed_eq, ← List.append_assoc] at h
    exact ⟨c, h, hc⟩

/-- An operation of the caller. -/
theorem calls (hu : settings.IsUsable reader) (hsound : Sound deeds t) (hcalls : Calls t deed t')
    (h : IsReached reader settings (marks ++ t.ahead) c) (hc : Shadows c t) :
    ∃ c', IsReached reader settings (marks ++ deed.mark?.toList ++ t'.ahead) c' ∧
      Shadows c' t' := by
  -- whoever connects or closes has no session at hand
  have hnone : t.caller ≠ .free → t.session = true → c.session.isSome = true := by
    intro hcaller hsession
    cases (hsound.handle hcaller).symm.trans hsession
  have hstays : deed.mark? = none → t'.ahead = t.ahead → Shadows c t' →
      ∃ c', IsReached reader settings (marks ++ deed.mark?.toList ++ t'.ahead) c' ∧
        Shadows c' t' := by
    intro hd hahead hc'
    rw [hd, hahead, Option.toList_none, List.append_nil]
    exact ⟨c, h, hc'⟩
  cases hcalls with
  | refuses | reaps | reads | stops | joins | finishes => exact hstays rfl rfl hc
  | @looks s hs session w => cases session <;> exact hstays rfl rfl hc.1
  | abandons => exact hstays rfl rfl ⟨hc, hnone fun h => by cases h⟩
  | connects s previous session w =>
    obtain ⟨rfl, -⟩ : s = previous ∧ _ := hsound.allowed
    exact hstays rfl rfl hc
  | spawns s previous session w =>
    obtain rfl : w = .gone := hsound.gone (hsound.handle fun h => by cases h) rfl
    obtain ⟨rfl, hprevious⟩ : s = .connecting ∧ _ := hsound.allowed
    have hdead : previous.isLive = false := by rcases hprevious with rfl | rfl <;> rfl
    obtain ⟨c', hc', hmirrors, hsome⟩ :=
      IsReached.connect (by simpa [Threads.ahead] using h) hu hc hdead
    exact ⟨c', by simpa [Threads.ahead, Deed.mark?] using hc', hmirrors, fun _ => hsome⟩
  | restores s previous session w =>
    obtain ⟨-, hprevious⟩ := hsound.allowed
    have hd : (Deed.forced .caller previous).mark? = none := by
      rcases hprevious with rfl | rfl <;> rfl
    exact hstays hd rfl ⟨hc, hnone fun h => by cases h⟩
  | skips s w =>
    obtain rfl : w = .gone := hsound.gone rfl rfl
    obtain ⟨c', h', hmirrors⟩ :=
      IsReached.skip (by simpa [Threads.ahead] using h) hc.1 (hsound.bare rfl rfl)
    exact ⟨c', by simpa [Threads.ahead, Deed.mark?] using h', hmirrors, fun h => by cases h⟩
  | takes s w => exact hstays rfl rfl ⟨hc.1, hc.2 rfl⟩
  | closes s session w =>
    obtain ⟨session, hsession⟩ := Option.isSome_iff_exists.1 hc.2
    have hclose := IsReached.close (by simpa [Threads.ahead] using h) hc.1
    rw [close_of_session hsession] at hclose
    exact ⟨c.down, by simpa [Threads.ahead, Deed.mark?] using hclose, rfl, rfl⟩
  | returns s session w =>
    obtain rfl : w = .gone := hsound.gone (hsound.handle fun h => by cases h) rfl
    obtain rfl : s = .closed := hsound.allowed
    have hgone : c.worker = .gone := by
      rw [worker, stage?, hc.1]
      rfl
    exact hstays rfl rfl ⟨⟨hc.2, .inr ⟨rfl, hgone⟩⟩, hnone fun h => by cases h⟩

theorem operates (hu : settings.IsUsable reader) (hsound : Sound deeds t) (ho : Operates t deed t')
    (h : IsReached reader settings (marks ++ t.ahead) c) (hc : Shadows c t) :
    ∃ c', IsReached reader settings (marks ++ deed.mark?.toList ++ t'.ahead) c' ∧
      Shadows c' t' := by
  cases ho with
  | caller hcalls => exact calls hu hsound hcalls h hc
  | service _ _ hw => exact works hsound hw h hc

end Shadows

end Client

/-! ## At rest -/

variable {reader : Address.Reader} {settings : Settings} {marks : List Mark} {deeds : List Deed}
  {t : Threads}

/-- Some client shows these threads, and these marks are seen on the way. It may have a session at
hand where the threads have none : a client that finds its endpoint usable always makes a thread. -/
def Threads.IsShown (reader : Address.Reader) (settings : Settings) (marks : List Mark)
    (t : Threads) : Prop :=
  ∃ c, Client.IsReached reader settings marks c ∧ c.state = t.state ∧ c.worker = t.worker

/-- A client follows the threads in every interleaving. -/
theorem Run.exists_shadow (h : Run deeds t) (hu : settings.IsUsable reader) :
    ∃ c, Client.IsReached reader settings (deeds.filterMap Deed.mark? ++ t.ahead) c ∧
      Client.Shadows c t := by
  induction h with
  | initial => exact ⟨_, .initial reader settings, ⟨rfl, .inr ⟨rfl, rfl⟩⟩, nofun⟩
  | @snoc deeds t t' deed h ho ih =>
    obtain ⟨c, hc, hshadows⟩ := ih
    rw [Deed.marks_snoc]
    exact Client.Shadows.operates hu h.sound ho hc hshadows

/-- Whatever the threads come to, some client shows it when they are at rest. -/
theorem Run.exists_client (h : Run deeds t) (ht : t.IsAtRest) (hu : settings.IsUsable reader) :
    t.IsShown reader settings (deeds.filterMap Deed.mark?) := by
  obtain ⟨c, hc, hshadows⟩ := h.exists_shadow hu
  obtain ⟨s, caller, session, w⟩ := t
  obtain ⟨rfl, hw⟩ : caller = .free ∧ w.isResting = true := ht
  exact ⟨c, by simpa [Threads.ahead] using hc, hshadows.1.state_eq, hshadows.1.worker_eq hw⟩

/-- At rest the threads and the clients come to the same, and the same is seen of them. -/
theorem Threads.isShown_iff (ht : t.IsAtRest) (hu : settings.IsUsable reader) :
    t.IsShown reader settings marks ↔
      ∃ session, IsReached marks { t with session := session } := by
  obtain ⟨s, caller, session, w⟩ := t
  obtain ⟨rfl, hw⟩ : caller = .free ∧ w.isResting = true := ht
  constructor
  · rintro ⟨c, ⟨moves, hc, rfl⟩, rfl, rfl⟩
    exact ⟨_, Client.threaded_chronicle reader settings moves c hc⟩
  · rintro ⟨session, deeds, h, rfl⟩
    exact h.exists_client ⟨rfl, hw⟩ hu

/-- In every interleaving of the two threads a connection that is over is never brought back by its
service; and what the threads come to, when they are at rest, is what some client shows of whom the
same is seen. -/
theorem Run.outlives (h : Run deeds t) :
    Outlives deeds t ∧
      (t.IsAtRest → ∀ {reader : Address.Reader} {settings : Settings}, settings.IsUsable reader →
        t.IsShown reader settings (deeds.filterMap Deed.mark?)) :=
  ⟨.of_sound h.sound, fun ht _ _ hu => h.exists_client ht hu⟩

/-- A service has just connected, and has seen that the state is connecting, when the caller
closes : its exchange fails, and the advance is not granted. Before it began a client showed the
threads, and an attempt was seen to begin. -/
theorem Run.outlives_overtaken :
    let begun : List Deed := [.quiet, .quiet, .forced .caller .connecting, .started]
    let settings : Settings := ⟨"ws://[::1]", none, 0⟩
    let deeds : List Deed := begun ++ [.quiet, .advanced .established none, .quiet,
      .forced .caller .closing, .advanced .established (some false)]
    let t : Threads := ⟨.closing, .stopping, false, .advancing .established (.done false)⟩
    Run deeds t ∧ Outlives deeds t ∧
      Threads.IsShown .loopback settings [.begins] ⟨.connecting, .free, true, .opening⟩ := by
  intro begun settings deeds t
  have hbegun : Run begun ⟨.connecting, .free, true, .opening⟩ :=
    (((Run.initial.snoc (.caller (.looks rfl false .gone))).snoc
      (.caller (.reads .idle false .gone))).snoc
        (.caller (.connects .idle .idle false .gone))).snoc
          (.caller (.spawns .connecting .idle false .gone))
  have hseen : Run (begun ++ [.quiet, .advanced .established none])
      ⟨.connecting, .free, true, .advancing .established (.exchanging .connecting)⟩ :=
    (hbegun.snoc (.service .free true (.opens .connecting))).snoc
      (.service .free true (.advances (.loads .connecting)))
  have hclosing : Run (begun ++ [.quiet, .advanced .established none, .quiet,
      .forced .caller .closing])
      ⟨.closing, .stopping, false, .advancing .established (.exchanging .connecting)⟩ :=
    (hseen.snoc (.caller (.takes .connecting _))).snoc (.caller (.closes .connecting false _))
  have hovertaken : Run deeds t :=
    hclosing.snoc (.service .stopping false (.advances (.misses .closing .connecting)))
  have husable : settings.IsUsable .loopback := ⟨by decide, _, rfl⟩
  exact ⟨hovertaken, hovertaken.outlives.1, hbegun.outlives.2 ⟨rfl, rfl⟩ husable⟩

end ChatLink
