import ChatLink.Proofs.Client.Progress

/-!
# What the state tells

After a step the state of a client is the truth about its latest attempt, as far as a chronicle
shows it (`Client.state_chronicle`) : idle if no attempt was ever begun, connecting as long as
nothing has come of the attempt, established while the greeting waits to be written, active while
the service serves, and also after the callback broke down, until the session is taken down; closed
in every other case, and closing never.

The service leaves the state alone when a callback breaks down, so this is the one case in which
nobody is at work and the state does not say so.
-/

namespace ChatLink

/-- Nothing has come of the attempt yet. -/
def IsHeld (chapter : List Occurrence) : Prop :=
  ∃ url, course chapter = [.logged (.connect url)]

/-- The transport is open, and all that came of it is that the write of the greeting waits. -/
def IsGreeting (hello : String) (chapter : List Occurrence) : Prop :=
  ∃ url, course chapter = [.logged (.connect url), .logged (.stalled hello)]

/-- The greeting is written, and the service is not gone. -/
def IsServing (hello : String) (chapter : List Occurrence) : Prop :=
  .logged (.write hello) ∈ chapter ∧ .ended ∉ chapter

/-- The state in which a client shows its phase, between calls and turns. -/
def Phase.state : Phase → Lifecycle
  | before => .idle
  | held => .connecting
  | greeting => .established
  | serving | calling _ _ | breaking | broken => .active
  | closing | leaving | gone => .closed

namespace Course

variable {hello : String} {chapter : List Occurrence} {p : Phase}

/-- An attempt whose greeting is not written and whose service is not gone has hardly begun. -/
theorem early (h : Course hello chapter p) (hp : p.isResting = true)
    (hover : .ended ∉ chapter) (hgreeting : .logged (.write hello) ∉ chapter) :
    p = .before ∨ p = .held ∨ p = .greeting := by
  rw [h.ended_mem_iff] at hover
  rcases p with _ | _ | _ | _ | ⟨name, e⟩ | _ | _ | _ | _ | _
  · exact .inl rfl
  · exact .inr (.inl rfl)
  · exact .inr (.inr rfl)
  · exact absurd (h.greeted (.inl rfl)) hgreeting
  all_goals simp [Phase.isResting, Phase.isOver] at hp hover

/-- Nothing has come of an attempt in the phase that says so, and in no other in which a client
rests. -/
theorem isHeld_iff (h : Course hello chapter p) (hp : p.isResting = true) :
    IsHeld chapter ↔ p = .held := by
  refine ⟨fun ⟨url, hurl⟩ => ?_, fun hp => by subst hp; exact h.shape⟩
  have hshape := h.shape
  rcases h.early hp (not_mem_of_course_eq hurl rfl (by simp))
    (not_mem_of_course_eq hurl rfl (by simp)) with rfl | rfl | rfl
  · cases hurl.symm.trans hshape
  · rfl
  · obtain ⟨url', hshape⟩ := hshape
    cases hurl.symm.trans hshape

theorem isGreeting_iff (h : Course hello chapter p) (hp : p.isResting = true) :
    IsGreeting hello chapter ↔ p = .greeting := by
  refine ⟨fun ⟨url, hurl⟩ => ?_, fun hp => by subst hp; exact h.shape⟩
  have hshape := h.shape
  rcases h.early hp (not_mem_of_course_eq hurl rfl (by simp))
    (not_mem_of_course_eq hurl rfl (by simp)) with rfl | rfl | rfl
  · cases hurl.symm.trans hshape
  · obtain ⟨url', hshape⟩ := hshape
    cases hurl.symm.trans hshape
  · rfl

theorem isServing_iff (h : Course hello chapter p) (hp : p.isResting = true) :
    IsServing hello chapter ↔ p = .serving := by
  refine ⟨fun ⟨hwritten, hover⟩ => ?_, fun hp => ?_⟩
  · have hshape := h.shape
    rw [h.ended_mem_iff] at hover
    rcases p with _ | _ | _ | _ | ⟨name, e⟩ | _ | _ | _ | _ | _
    · exact absurd hwritten (not_mem_of_course_eq hshape rfl (by simp))
    · obtain ⟨url, hshape⟩ := hshape
      exact absurd hwritten (not_mem_of_course_eq hshape rfl (by simp))
    · obtain ⟨url, hshape⟩ := hshape
      exact absurd hwritten (not_mem_of_course_eq hshape rfl (by simp))
    · rfl
    all_goals simp [Phase.isResting, Phase.isOver] at hp hover
  · subst hp
    rw [IsServing, h.ended_mem_iff]
    exact ⟨h.greeted (.inl rfl), Bool.false_ne_true⟩

/-- In the phases in which steps can be made, a breakdown that nobody has noticed is one. -/
theorem isBroken_iff_of_steady (h : Course hello chapter p)
    (hp : p.isSteady = true ∨ p = .broken) : isBroken chapter = true ↔ p = .broken := by
  rw [h.isBroken_iff]
  refine ⟨fun hbroken => hbroken.resolve_left ?_, .inr⟩
  rintro rfl
  simp [Phase.isSteady] at hp

end Course

namespace Client

variable {settings : Settings} {c c' : Client} {s : Session} {told : List Occurrence}
  {es : List Entry}

/-! ## The state and the phase -/

theorem Coherent.state_eq_phase (h : Coherent settings c) : c.state = c.phase.state := by
  rcases hs : c.session with _ | s
  · have hstage : c.stage? = none := congrArg (Option.map _) hs
    rw [phase, hstage]
    rcases h.state_of_none hs with hst | hst <;> simp [hst, Phase.state]
  · rw [h.state_of_session hs, phase_of_session hs rfl]
    rcases s.stage with _ | _ | _ | (_ | _) | _ | _ | _ <;> rfl

/-! ## Idle means never connected -/

theorem made_mem_callOccurrences {step made : Step} {reply : Reply} :
    .made made reply ∈ c.callOccurrences step ↔ made = step ∧ reply = (c.apply step).2.1 := by
  obtain ⟨words, hwords, htold⟩ := c.callOccurrences_cases step
  rw [htold]
  rcases hwords with rfl | rfl | rfl <;> cases c.attempt? step <;> simp

/-- The state is idle exactly as long as no attempt was begun. -/
structure Remembers (settings : Settings) (c : Client) (told : List Occurrence) : Prop where
  coherent : Coherent settings c
  idle : c.state = .idle ↔ .made .connect (.called .ok) ∉ told

theorem Remembers.apply (h : Remembers settings c told) (step : Step) :
    Remembers settings (c.apply step).1 (told ++ c.callOccurrences step) := by
  refine ⟨h.coherent.apply step, ?_⟩
  rw [List.mem_append, made_mem_callOccurrences, not_or,
    h.coherent.state_apply_eq_idle_iff, h.idle]

theorem Remembers.turn (h : Remembers settings c told) (ht : c.turn = some (c', es)) :
    Remembers settings c' (told ++ c.turnOccurrences) := by
  obtain ⟨hst, hst'⟩ := h.coherent.state_ne_idle_of_turn ht
  refine ⟨h.coherent.turn ht, iff_of_false hst' fun hn => ?_⟩
  exact hst (h.idle.2 fun hmem => hn (List.mem_append_left _ hmem))

theorem remembers_chronicle (reader : Address.Reader) (settings : Settings) (moves : List Move) :
    ∃ c, Remembers settings c (chronicle reader settings moves).2 ∧
      ∀ c' ∈ (chronicle reader settings moves).1, c' = c := by
  refine chronicle_invariant (Remembers settings) (fun step h => h.apply step)
    (fun h ht => h.turn ht) ⟨.new reader settings, ?_⟩ moves
  exact iff_of_true rfl List.not_mem_nil

/-! ## What a settled service waits for -/

/-- An attempt is held only if it is not let in. -/
theorem letIn_of_turn_eq_none (hs : c.session = some s) (hst : s.stage = .held)
    (ht : c.turn = none) : c.peer.letIn = none := by
  rw [turn_of_session hs, turnOf, hst] at ht
  dsimp only at ht
  split at ht
  · cases ht
  · exact Option.map_eq_none_iff.1 ht

/-- The greeting waits only if writes do. -/
theorem delivery_of_greeting {inbox : List Item} (hs : c.session = some s)
    (hst : s.stage = .greeting inbox) (ht : c.turn = none) : c.peer.delivery = .waits := by
  rw [turn_of_session hs, turnOf, hst] at ht
  dsimp only at ht
  split at ht
  · cases ht
  · exact delivery_of_writeGreeting ht

/-- A service that serves has nothing to do, or waits for a write because writes do. -/
theorem idle_or_stalled {inbox : List Item} {pending : Option Envelope}
    (hs : c.session = some s) (hst : s.stage = .serving inbox pending) (ht : c.turn = none) :
    pending = none ∧ s.outbox.queue = [] ∧ inbox = [] ∨
      pending.isSome = true ∧ c.peer.delivery = .waits := by
  rcases pending with _ | e
  · have hq := queue_of_turn_eq_none hs hst ht
    rw [turn_of_session hs, turnOf, hst] at ht
    dsimp only at ht
    split at ht
    · cases ht
    · unfold serve at ht
      split at ht
      · cases ht
      · cases ht
      · split at ht
        · cases ht
        · exact .inl ⟨rfl, hq, rfl⟩
  · rw [turn_of_session hs, turnOf, hst] at ht
    dsimp only at ht
    split at ht
    · cases ht
    · exact .inr ⟨rfl, delivery_of_writePending ht⟩

/-! ## The state after a step -/

/-- The state of a client is the truth about its latest attempt. -/
structure Tells (settings : Settings) (c : Client) (told : List Occurrence) : Prop where
  closing : c.state ≠ .closing
  idle : c.state = .idle ↔ .made .connect (.called .ok) ∉ told
  connecting : c.state = .connecting ↔ IsHeld (chapters told).current
  held : IsHeld (chapters told).current → c.peer.letIn = none
  established : c.state = .established ↔ IsGreeting settings.greeting (chapters told).current
  greeting : IsGreeting settings.greeting (chapters told).current → c.peer.delivery = .waits
  active : c.state = .active ↔
    IsServing settings.greeting (chapters told).current ∨ isBroken (chapters told).current = true
  /-- A service that serves is idle, or a later write waits. -/
  serving : IsServing settings.greeting (chapters told).current →
    ∃ s inbox pending, c.session = some s ∧ s.stage = .serving inbox pending ∧
      (pending = none ∧ s.outbox.queue = [] ∧ inbox = [] ∨
        pending.isSome = true ∧ c.peer.delivery = .waits)
  closed : c.state = .closed ↔ .made .connect (.called .ok) ∈ told ∧
    ¬IsHeld (chapters told).current ∧ ¬IsGreeting settings.greeting (chapters told).current ∧
      ¬IsServing settings.greeting (chapters told).current ∧
        isBroken (chapters told).current = false

theorem exists_session_of_running (h : c.phase.isRunning = true) :
    ∃ s, c.session = some s ∧ s.stage.phase = c.phase := by
  rcases hs : c.session with _ | s
  · rcases phase_of_none hs with hp | hp <;> rw [hp] at h <;> cases h
  · exact ⟨s, rfl, (phase_of_session hs rfl).symm⟩

theorem tells_of_turn_eq_none (hf : Follows settings c told) (hr : Remembers settings c told)
    (ht : c.turn = none) : Tells settings c told := by
  have hresting := isResting_of_turn_eq_none ht
  have hstate := hf.coherent.state_eq_phase
  have hidle := hr.idle
  have hheld := hf.current.isHeld_iff hresting
  have hgreeting := hf.current.isGreeting_iff hresting
  have hserving := hf.current.isServing_iff hresting
  have hbroken := hf.current.isBroken_iff_of_steady c.phase_steady
  have hsession := exists_session_of_running (c := c)
  rw [hstate] at hidle
  constructor
  · rw [hstate]
    cases c.phase <;> nofun
  · exact hr.idle
  · rw [hstate, hheld]
    cases c.phase <;> simp [Phase.state]
  · intro h
    rw [hheld.1 h] at hsession
    obtain ⟨s, hs, hst⟩ := hsession rfl
    exact letIn_of_turn_eq_none hs (Stage.phase_eq_held.1 hst) ht
  · rw [hstate, hgreeting]
    cases c.phase <;> simp [Phase.state]
  · intro h
    rw [hgreeting.1 h] at hsession
    obtain ⟨s, hs, hst⟩ := hsession rfl
    obtain ⟨inbox, hstage⟩ := Stage.phase_eq_greeting.1 hst
    exact delivery_of_greeting hs hstage ht
  · rw [hstate, hserving, hbroken]
    revert hresting
    cases c.phase <;> simp [Phase.state, Phase.isResting]
  · intro h
    rw [hserving.1 h] at hsession
    obtain ⟨s, hs, hst⟩ := hsession rfl
    obtain ⟨inbox, pending, hstage⟩ := Stage.phase_eq_serving.1 hst
    exact ⟨s, _, _, hs, hstage, idle_or_stalled hs hstage ht⟩
  · rw [hstate, hheld, hgreeting, hserving, ← Bool.not_eq_true, hbroken]
    rw [← not_iff_not, not_not] at hidle
    rw [← hidle]
    revert hresting
    cases c.phase <;> simp [Phase.state, Phase.isResting]

/-- After a step the state of a client is the truth about its latest attempt. -/
theorem state_chronicle {reader : Address.Reader} {moves : List Move} {step : Step}
    (h : (chronicle reader settings (moves ++ [.step step])).1 = some c) :
    Tells settings c (chronicle reader settings (moves ++ [.step step])).2 := by
  obtain ⟨c₁, hf, h₁⟩ := follows_chronicle reader settings (moves ++ [.step step])
  obtain ⟨c₂, hr, h₂⟩ := remembers_chronicle reader settings (moves ++ [.step step])
  obtain rfl := h₁ c h
  obtain rfl := h₂ c h
  exact tells_of_turn_eq_none hf hr (turn_of_chronicle h)

/-- An attempt that needs a permit is connecting while it waits for one, and takes an envelope. -/
theorem state_chronicle_held :
    let settings : Settings := ⟨"ws://[::1]", some "t", 100⟩
    let moves : List Move :=
      [.step (.configure ⟨some true, none, none, none, none, none⟩), .step .connect]
    let step : Step := .submit (.join "a")
    ∃ c, (chronicle .loopback settings (moves ++ [.step step])).1 = some c ∧
      c.state = .connecting ∧
        Tells settings c (chronicle .loopback settings (moves ++ [.step step])).2 := by
  intro settings moves step
  let gated : Client :=
    { new .loopback settings with peer := ⟨true, false, false, false, false, false, 0⟩ }
  let queued : Client := gated.begin.withSession ((Session.initial 0).withQueue [.join "a"])
  obtain ⟨entries, hconnect⟩ := apply_connect_of_ok (c := gated) (by decide +kernel)
  have hgated : (advance (some (.new .loopback settings))
      (.configure ⟨some true, none, none, none, none, none⟩)).1 = some gated :=
    advance_of_turn_eq_none rfl rfl nofun
  have hheld : (advance (some gated) .connect).1 = some gated.begin :=
    advance_of_turn_eq_none hconnect rfl nofun
  have hqueued : (advance (some gated.begin) step).1 = some queued :=
    advance_of_turn_eq_none rfl rfl nofun
  have hc : (chronicle .loopback settings (moves ++ [.step step])).1 = some queued := by
    simp only [chronicle, moves, List.cons_append, List.nil_append, List.foldl_cons,
      List.foldl_nil, recounted, move, hgated, hheld, hqueued]
  exact ⟨queued, hc, rfl, state_chronicle hc⟩

end Client

end ChatLink
