import ChatLink.Proofs.Client.Stopping
import ChatLink.Proofs.Client.Trace

/-!
# What comes after a stop request

A stop request wins over all other work of a service. Whether the application closes the client or
gives it up, or the callback closes it, nothing is written after that and no event is delivered : a
callback that is running does its remaining actions, whose envelopes are accepted and never sent,
then the transport is closed, and the service is gone (`Aftermath`). The client is closed then,
unless the callback broke down in the meantime (`Client.heeds_chronicle`).

While a service is on its way to its end, part of this is told and part of it is still to come.
What is still to come are the last words of the client, so that an aftermath is stated with them;
calls and turns move words from the one part to the other.
-/

namespace ChatLink

/-- The service is asked to stop. -/
def Occurrence.asksToStop : Occurrence → Bool
  | made step _ => step.closes
  | logged (.acted .close _) => true
  | logged _ | consumed _ _ | ended => false

/-- The service goes on with its work : it writes, or turns to what it received. -/
def Occurrence.isWork : Occurrence → Bool
  | logged (.stalled _) | logged (.write _) | logged (.writeFailed _) | logged (.event _ _)
  | consumed _ _ => true
  | logged (.connect _) | logged .refused | logged .close | logged (.acted _ _) | made _ _
  | ended => false

/-- The action is done, and has the answer that it always has. -/
def Action.done (action : Action) : Occurrence := .logged action.entry

/-- A callback is running, and these of its actions are still to come when it has closed the
client. -/
inductive Closing : List Occurrence → List Action → Prop
  | mk (before : List Occurrence) (item : Item) (callback : Callback) (e : Event)
      {first rest : List Action} (h : callback.actions = first ++ .close :: rest) :
    Closing (before ++ .consumed item (some callback) :: .logged (.event callback.name e) ::
      first.map Action.done) rest

/-- What comes after a stop request in a chapter, when these words are still to come. -/
inductive Aftermath (earlier : List Occurrence) :
    Occurrence → List Occurrence → List Occurrence → Prop
  /-- The session is taken down at once. -/
  | closed {step : Step} {later : List Occurrence} (hs : step.closes = true) (reply : Reply)
      (hlater : course later = if isRunning earlier then
        (if isOpen earlier then [.logged .close] else []) ++ [.ended] else []) :
    Aftermath earlier (.made step reply) later []
  /-- The callback comes to its end, the transport is closed, and the service is gone. -/
  | quits {rest : List Action} {later words : List Occurrence} (h : Closing earlier rest)
      (hrest : .panic ∉ rest) (hlater : course later ++ words = [.logged .close, .ended]) :
    Aftermath earlier (Action.done .close) (rest.map Action.done ++ later) words
  /-- The callback breaks down, and the transport is lost. -/
  | breaks {rest never : List Action} {later : List Occurrence}
      (h : Closing earlier (rest ++ .panic :: never)) (hrest : .panic ∉ rest)
      (hlater : course later = [.ended]) :
    Aftermath earlier (Action.done .close) ((rest ++ [Action.panic]).map Action.done ++ later) []

/-! ## What comes after a stop request -/

theorem course_append (chapter more : List Occurrence) :
    course (chapter ++ more) = course chapter ++ course more :=
  List.filter_append _ _

/-- What is in a list that was added to was there before, or it was added. -/
theorem append_eq_append_cons {α : Type} {list more earlier later : List α} {a : α}
    (h : list ++ more = earlier ++ a :: later) :
    (∃ between, list = earlier ++ a :: between ∧ later = between ++ more) ∨
      ∃ between, earlier = list ++ between ∧ more = between ++ a :: later := by
  rcases List.append_eq_append_iff.1 h with ⟨between, hearlier, hmore⟩ | ⟨between, hlist, hlater⟩
  · exact .inr ⟨between, hearlier, hmore⟩
  · rcases between with _ | ⟨b, between⟩
    · exact .inr ⟨[], by simpa using hlist.symm, by simpa using hlater.symm⟩
    · obtain ⟨rfl, rfl⟩ := List.cons.inj hlater
      exact .inl ⟨between, hlist, rfl⟩

namespace Aftermath

variable {earlier later more words words' : List Occurrence} {o : Occurrence}

/-- Some of the words that were still to come are told. -/
theorem append (h : Aftermath earlier o later words) (hmore : course more ++ words' = words) :
    Aftermath earlier o (later ++ more) words' := by
  have hcourse : ∀ tail, course (tail ++ more) ++ words' = course tail ++ words := by
    intro tail
    rw [course_append, List.append_assoc, hmore]
  have hnone : words = [] → words' = [] ∧ ∀ tail, course (tail ++ more) = course tail := by
    rintro rfl
    obtain ⟨hnil, rfl⟩ := List.append_eq_nil_iff.1 hmore
    exact ⟨rfl, fun tail => by rw [course_append, hnil, List.append_nil]⟩
  cases h with
  | closed hs reply hlater =>
    obtain ⟨rfl, hsame⟩ := hnone rfl
    exact .closed hs reply ((hsame _).trans hlater)
  | quits h hrest hlater =>
    rw [List.append_assoc]
    exact .quits h hrest ((hcourse _).trans hlater)
  | breaks h hrest hlater =>
    obtain ⟨rfl, hsame⟩ := hnone rfl
    rw [List.append_assoc]
    exact .breaks h hrest ((hsame _).trans hlater)

/-- Nothing is written any more, and no event is delivered. -/
theorem isWork_eq_false (h : Aftermath earlier o later words) :
    ∀ o' ∈ later, o'.isWork = false := by
  have hcourse : ∀ tail : List Occurrence, course tail ⊆ [.logged .close, .ended] →
      ∀ o' ∈ tail, o'.isWork = false := by
    intro tail htail o' ho'
    by_cases hstep : o'.isStep = true
    · cases o' <;> first | rfl | cases hstep
    · have hmem := htail (mem_course.2 ⟨ho', by simpa using hstep⟩)
      rcases List.mem_cons.1 hmem with rfl | hmem
      · rfl
      · rw [List.mem_singleton.1 hmem]
        rfl
  have hdone : ∀ (actions : List Action) (tail : List Occurrence),
      course tail ⊆ [.logged .close, .ended] →
        ∀ o' ∈ actions.map Action.done ++ tail, o'.isWork = false := by
    intro actions tail htail o' ho'
    rcases List.mem_append.1 ho' with ho' | ho'
    · obtain ⟨action, -, rfl⟩ := List.mem_map.1 ho'
      rfl
    · exact hcourse tail htail o' ho'
  cases h with
  | closed hs reply hlater =>
    refine hcourse _ ?_
    rw [hlater]
    cases isRunning earlier <;> cases isOpen earlier <;> simp
  | quits h hrest hlater =>
    refine hdone _ _ ?_
    rw [← hlater]
    exact List.subset_append_left _ _
  | breaks h hrest hlater => exact hdone _ _ (by simp [hlater])

end Aftermath

namespace Client

variable {settings : Settings} {c c' : Client} {chapter earlier later told : List Occurrence}
  {o : Occurrence} {es : List Entry}

/-! ## The request of a callback -/

/-- Where an action closes the client, among those that a callback does. -/
theorem exists_close {head more between : List Occurrence} {actions : List Action}
    (h : head ++ (actions.map Action.done ++ more) = between ++ o :: later)
    (hhead : ∀ o ∈ head, o.asksToStop = false) (hmore : ∀ o ∈ more, o.asksToStop = false)
    (ho : o.asksToStop = true) :
    ∃ first rest, actions = first ++ .close :: rest ∧ between = head ++ first.map Action.done ∧
      o = Action.done .close ∧ later = rest.map Action.done ++ more := by
  rcases append_eq_append_cons h with ⟨_, rfl, -⟩ | ⟨before, rfl, htail⟩
  · rw [hhead o (by simp)] at ho
    cases ho
  · rcases append_eq_append_cons htail with ⟨after, hactions, rfl⟩ | ⟨_, -, rfl⟩
    · obtain ⟨first, rest, rfl, rfl, hrest⟩ := List.map_eq_append_iff.1 hactions
      obtain ⟨action, rest, rfl, rfl, rfl⟩ := List.map_eq_cons_iff.1 hrest
      cases action with
      | close => exact ⟨first, rest, rfl, rfl, rfl, rfl⟩
      | _ => cases ho
    · rw [hmore o (by simp)] at ho
      cases ho

/-- A turn in which the service is asked to stop is one in which a callback is called. -/
theorem exists_actAll_of_asksToStop (ht : c.turn = some (c', es)) (hmem : o ∈ c.turnOccurrences)
    (ho : o.asksToStop = true) :
    ∃ s item inbox callback e acted, c.session = some s ∧
      s.stage = .serving (item :: inbox) none ∧
        (c.withSession { s with stage := .serving inbox none }).actAll e callback.actions =
          (c', acted) ∧
        c.turnOccurrences = [.consumed item (some callback), .logged (.event callback.name e)] ++
          (acted.map .logged ++ c.parting c') := by
  obtain ⟨outcome, hacted⟩ : ∃ outcome, .acted .close outcome ∈ es := by
    rw [turnOccurrences_of_turn ht] at hmem
    rcases List.mem_append.1 hmem with hmem | hmem
    · obtain ⟨item, -, rfl⟩ := Option.map_eq_some_iff.1 (Option.mem_toList.1 hmem)
      cases ho
    rcases List.mem_append.1 hmem with hmem | hmem
    · obtain ⟨entry, hentry, rfl⟩ := List.mem_map.1 hmem
      cases entry with
      | acted action outcome =>
        cases action with
        | close => exact ⟨outcome, hentry⟩
        | _ => cases ho
      | _ => cases ho
    · rcases c.parting_cases c' with hp | hp <;> rw [hp] at hmem
      · exact absurd hmem List.not_mem_nil
      · rw [List.mem_singleton.1 hmem] at ho
        cases ho
  obtain ⟨s, hs, hturns⟩ := turns_of_turn ht
  obtain ⟨item, inbox, frame, hst, stop, hq, hdeliver⟩ := hturns.deliver_of_acted hacted
  rw [turnOccurrences_of_turn ht, intake?_eq_some hs hst stop hq]
  rw [deliver] at hdeliver
  split at hdeliver
  · next e callback _ hcallback =>
    have hcallback : c.callback = some callback := hcallback
    obtain ⟨hclient, rfl⟩ := Prod.mk.inj hdeliver
    rw [hcallback]
    exact ⟨s, item, inbox, callback, e, _, hs, hst, Prod.ext hclient rfl, rfl⟩
  · rw [← (Prod.mk.inj hdeliver).2] at hacted
    exact absurd hacted List.not_mem_nil

/-- What comes after a callback closed the client, when it is told to the end of the turn. -/
theorem aftermath_actAll {item : Item} {callback : Callback} {e : Event} {s : Session}
    {inbox : List Item} {between tail : List Occurrence} (hserves : Serves c)
    (hs : c.session = some s) (hst : s.stage = .serving inbox none)
    (hdone : c.actAll e callback.actions = (c', es))
    (htail : tail = if c'.isServed then [] else [.ended])
    (h : [.consumed item (some callback), .logged (.event callback.name e)] ++
      (es.map .logged ++ tail) = between ++ o :: later) (ho : o.asksToStop = true) :
    Aftermath (chapter ++ between) o later c'.lastWords ∧
      (c'.isServed = true → IsStopping c') := by
  have hhead : ∀ o ∈ [Occurrence.consumed item (some callback), .logged (.event callback.name e)],
      o.asksToStop = false := by simp [Occurrence.asksToStop]
  have hended : ∀ o ∈ [Occurrence.ended], o.asksToStop = false := by
    simp [Occurrence.asksToStop]
  have hnil : ∀ o ∈ ([] : List Occurrence), o.asksToStop = false := by simp
  have hmap : ∀ actions : List Action,
      (actions.map Action.entry).map Occurrence.logged = actions.map Action.done :=
    fun actions => List.map_map
  have hacted := hserves.actAll e callback.actions
  rw [hdone, stage?_of_session hs hst] at hacted
  dsimp only [Option.map_some] at hacted
  rcases hacted with ⟨hpanic, rfl, hstage⟩ | ⟨acted, never, hactions, hpanic, rfl, hstage⟩
  · -- the callback comes to its end
    have hserved : c'.isServed = true := isServed_of_stage? hstage
    have hwords : c'.lastWords = [.logged .close, .ended] := by
      rw [lastWords_eq_phase, phase_of_stage? hstage]
      rfl
    rw [hmap, htail, if_pos hserved] at h
    obtain ⟨first, rest, hactions, rfl, rfl, rfl⟩ := exists_close h hhead hnil ho
    rw [hwords]
    refine ⟨.quits (.mk chapter item callback e hactions) ?_ rfl, fun _ => ?_⟩
    · rw [hactions, List.mem_append, List.mem_cons, not_or, not_or] at hpanic
      exact hpanic.2.2
    · have hstopping := IsStopping.actAll e hserves hpanic (.inr (by simp [hactions]))
      rwa [hdone] at hstopping
  · -- the callback breaks down, after it closed the client
    have hserved : c'.isServed = false := isServed_of_stage? hstage
    rw [hmap, htail, hserved, if_neg Bool.false_ne_true] at h
    obtain ⟨first, rest, hrest, rfl, rfl, rfl⟩ := exists_close h hhead hended ho
    rw [hserved, lastWords_of_not_isServed hserved]
    refine ⟨?_, nofun⟩
    rcases append_eq_append_cons hrest with ⟨rest, rfl, rfl⟩ | ⟨between, -, hlast⟩
    · rw [List.append_assoc, List.cons_append] at hactions
      rw [List.mem_append, List.mem_cons, not_or, not_or] at hpanic
      exact .breaks (.mk chapter item callback e hactions) hpanic.2.2 rfl
    · rcases between with _ | ⟨action, between⟩ <;> simp at hlast

/-- What comes after a stop request in a turn. -/
theorem aftermath_turn (chapter : List Occurrence) {between : List Occurrence}
    (hc : Coherent settings c) (ha : Attended c) (ht : c.turn = some (c', es))
    (h : c.turnOccurrences = between ++ o :: later) (ho : o.asksToStop = true) :
    Aftermath (chapter ++ between) o later c'.lastWords ∧
      (c'.isServed = true → IsStopping c') := by
  obtain ⟨s, item, inbox, callback, e, acted, hs, hst, hdone, htold⟩ :=
    exists_actAll_of_asksToStop ht (by simp [h]) ho
  have hserved : c.isServed = true := isServed_of_stage? (stage?_of_session hs hst)
  have htail : c.parting c' = if c'.isServed then [] else [.ended] := by
    cases hserved' : c'.isServed
    · exact parting_of_ends hserved hserved'
    · exact parting_of_isServed hserved'
  rw [htold] at h
  exact aftermath_actAll (serves_of_stage hc ha hs hst) rfl rfl hdone htail h ho

/-! ## Runs -/

/-- Every stop request in the chapter has its aftermath there, but for the words still to come. -/
def Heeded (chapter words : List Occurrence) : Prop :=
  ∀ ⦃earlier later : List Occurrence⦄ ⦃o : Occurrence⦄, chapter = earlier ++ o :: later →
    o.asksToStop = true → Aftermath earlier o later words

/-- A client and its current chapter, as far as stop requests are concerned. -/
structure Heeding (settings : Settings) (c : Client) (chapter : List Occurrence) : Prop where
  coherent : Coherent settings c
  attended : Attended c
  course : Course settings.greeting chapter c.phase
  heeded : Heeded chapter c.lastWords
  stopping (h : ∃ o ∈ chapter, o.asksToStop = true) (hserved : c.isServed = true) : IsStopping c

theorem asksToStop_lastWords (c : Client) : ∀ o ∈ c.lastWords, o.asksToStop = false := by
  rcases c.lastWords_cases with h | h | h <;> rw [h] <;> simp [Occurrence.asksToStop]

namespace Heeding

theorem new (reader : Address.Reader) (settings : Settings) :
    Heeding settings (.new reader settings) [] := by
  refine ⟨.new reader settings, .of_none rfl, .start, fun earlier later o h => ?_, fun ho => ?_⟩
  · exact absurd h (by simp)
  · obtain ⟨o, hmem, -⟩ := ho
    exact absurd hmem List.not_mem_nil

/-- The service of the last attempt is waited for before the next one begins. -/
theorem begun {step : Step} {url : String} (h : Heeding settings c chapter)
    (hattempt : c.attempt? step = some url) :
    Heeded (chapter ++ .made step (.called .ok) :: c.lastWords) [] ∧
      Heeding settings c.begin [.logged (.connect url)] := by
  have hstep : step.closes = false := by rw [(attempt?_eq_some hattempt).1]; rfl
  have hnone : ∀ o ∈ [Occurrence.logged (.connect url)], o.asksToStop = false := by
    simp [Occurrence.asksToStop]
  refine ⟨fun earlier later o heq ho => ?_, .begin h.coherent.settings_eq,
    .of_hasReceiver rfl rfl nofun, (course_begun h.coherent h.course hattempt).2,
    fun earlier later o heq ho => ?_, fun ho => ?_⟩
  · rcases append_eq_append_cons heq with ⟨between, hchapter, rfl⟩ | ⟨between, -, hmore⟩
    · refine (h.heeded hchapter ho).append ?_
      rw [List.append_nil]
      exact c.course_of_lastWords
    · rcases List.mem_cons.1 (show o ∈ .made step (.called .ok) :: c.lastWords by simp [hmore]) with
        rfl | hmem
      · cases hstep.symm.trans ho
      · cases (c.asksToStop_lastWords o hmem).symm.trans ho
  · cases (hnone o (by simp [heq])).symm.trans ho
  · obtain ⟨o, hmem, ho⟩ := ho
    cases (hnone o hmem).symm.trans ho

theorem call {step : Step} (h : Heeding settings c chapter) (hattempt : c.attempt? step = none) :
    Heeding settings (c.apply step).1 (chapter ++ c.callOccurrences step) := by
  obtain ⟨told, hutters⟩ := c.lastWords_apply hattempt
  have hasks : ∀ o ∈ told, o.asksToStop = false := by
    intro o hmem
    exact c.asksToStop_lastWords o (hutters.rest ▸ List.mem_append_left _ hmem)
  have hcourse := course_apply h.coherent h.course hattempt
  rw [hutters.call] at hcourse ⊢
  refine ⟨h.coherent.apply step, h.attended.apply step, hcourse, fun earlier later o heq ho => ?_,
    fun ho hserved => ?_⟩
  · rcases append_eq_append_cons heq with ⟨between, hchapter, rfl⟩ | ⟨between, rfl, hmore⟩
    · refine (h.heeded hchapter ho).append ?_
      rw [← hutters.rest]
      exact congrArg (· ++ _) hutters.course_eq
    · rcases between with _ | ⟨made, between⟩
      · -- the call itself takes the session down, and nothing is still to come
        obtain ⟨rfl, rfl⟩ := List.cons.inj hmore
        have hsession : (c.apply step).1.session = none := by
          rw [apply_of_closes ho]
          exact c.session_close
        have hrest := hutters.rest
        rw [lastWords_of_none hsession, List.append_nil] at hrest
        rw [lastWords_of_none hsession]
        refine .closed ho _ ?_
        rw [List.append_nil, h.course.isRunning_eq, h.course.isOpen_eq, hutters.course_eq, hrest,
          lastWords_eq_phase]
        cases c.phase <;> rfl
      · cases (hasks o (by simp [(List.cons.inj hmore).2])).symm.trans ho
  · obtain ⟨o, hmem, ho⟩ := ho
    rcases List.mem_append.1 hmem with hmem | hmem
    · exact hutters.stopping hserved (h.stopping ⟨o, hmem, ho⟩ (hutters.isServed hserved))
    · rcases List.mem_cons.1 hmem with rfl | hmem
      · rw [apply_of_closes ho, isServed_of_none (congrArg (Option.map _) c.session_close)]
          at hserved
        cases hserved
      · cases (hasks o hmem).symm.trans ho

theorem turn (h : Heeding settings c chapter) (ht : c.turn = some (c', es)) :
    Heeding settings c' (chapter ++ c.turnOccurrences) := by
  have hserved := isServed_of_turn ht
  have hgreeting : c.greeting = settings.greeting := by
    rw [greeting, h.coherent.settings_eq]
    rfl
  refine ⟨h.coherent.turn ht, h.attended.turn ht,
    hgreeting ▸ course_turn (hgreeting.symm ▸ h.course) ht, fun earlier later o heq ho => ?_,
    fun ho hserved' => ?_⟩
  · rcases append_eq_append_cons heq with ⟨between, hchapter, rfl⟩ | ⟨between, rfl, hmore⟩
    · have hstopping := h.stopping ⟨o, by simp [hchapter], ho⟩ hserved
      refine (h.heeded hchapter ho).append ?_
      rw [course_turnOccurrences ht, (hstopping.turn ht).1]
    · exact (aftermath_turn chapter h.coherent h.attended ht hmore ho).1
  · obtain ⟨o, hmem, ho⟩ := ho
    rcases List.mem_append.1 hmem with hmem | hmem
    · exact ((h.stopping ⟨o, hmem, ho⟩ hserved).turn ht).2
    · obtain ⟨between, later, hmore⟩ := List.append_of_mem hmem
      exact (aftermath_turn chapter h.coherent h.attended ht hmore ho).2 hserved'

end Heeding

/-- Stop requests win over all other work. -/
structure Heeds (told : List Occurrence) : Prop where
  /-- Every stop request has its aftermath in its chapter, -/
  aftermath {chapter earlier later : List Occurrence} {o : Occurrence}
      (hchapter : chapter ∈ (chapters told).all) (h : chapter = earlier ++ o :: later)
      (ho : o.asksToStop = true) :
    ∃ words, Aftermath earlier o later words
  /-- in which nothing is written and no event is delivered, -/
  silent {chapter earlier later : List Occurrence} {o : Occurrence}
      (hchapter : chapter ∈ (chapters told).all) (h : chapter = earlier ++ o :: later)
      (ho : o.asksToStop = true) :
    ∀ o' ∈ later, o'.isWork = false
  /-- and which is over, with the service gone, before another attempt begins. -/
  past {chapter : List Occurrence} (hchapter : chapter ∈ (chapters told).past) : Heeded chapter []

/-- A client that is asked to stop comes to its end. -/
structure Halts (c : Client) (told : List Occurrence) : Prop where
  /-- A session that is taken down is gone at once, and the client is closed. -/
  closed {step : Step} (hstep : step.closes = true) (hs : c.session.isSome = true) :
    (c.apply step).1 = c.down
  /-- After the request of a callback the next turns close the client and its transport, and they
  tell the words that are still to come. Where no service is left there are none. -/
  asked (h : ∃ o ∈ (chapters told).current, o.asksToStop = true) :
    (∃ s, c.session = some s ∧ c.settleOccurrences = c.lastWords ∧
        Heeded (chapters told).current c.lastWords ∧
        c.settle.1 = { c with state := .closed, session := some { s with stage := .ended } }) ∨
      c.turn = none ∧ Heeded (chapters told).current []
  /-- A service that was asked to stop and can do nothing more has left the client closed, unless
  the callback broke down. -/
  ends (h : ∃ o ∈ (chapters told).current, o.asksToStop = true)
      (hbegun : ∃ url, .logged (.connect url) ∈ (chapters told).current) (ht : c.turn = none)
      (hbroken : isBroken (chapters told).current = false) :
    c.state = .closed

theorem heeding_chronicle (reader : Address.Reader) (settings : Settings) (moves : List Move) :
    ∃ c, ((∀ chapter ∈ (chapters (chronicle reader settings moves).2).past, Heeded chapter []) ∧
        Heeding settings c (chapters (chronicle reader settings moves).2).current) ∧
      ∀ c' ∈ (chronicle reader settings moves).1, c' = c :=
  chapters_invariant (Heeding settings) (fun chapter => Heeded chapter [])
    (fun h hattempt => h.begun hattempt) (fun h hattempt => h.call hattempt)
    (fun h ht => h.turn ht) (.new reader settings) moves

theorem Heeding.isServed_of_turn_eq_none (h : Heeding settings c chapter)
    (ho : ∃ o ∈ chapter, o.asksToStop = true) (ht : c.turn = none) : c.isServed = false := by
  by_contra hserved
  have hserved : c.isServed = true := by simpa using hserved
  obtain ⟨s, hs, stop⟩ := h.stopping ho hserved
  have hsettle := settleOccurrences_of_stopping hs stop
  rw [settleOccurrences_of_turn_eq_none ht, lastWords, hserved] at hsettle
  exact absurd hsettle.symm (by simp)

theorem Heeding.halts (h : Heeding settings c (chapters told).current) : Halts c told := by
  refine ⟨fun {step} hstep hs => ?_, fun ho => ?_, fun ho hbegun ht hbroken => ?_⟩
  · obtain ⟨s, hs⟩ := Option.isSome_iff_exists.1 hs
    rw [apply_of_closes hstep, close_of_session hs]
  · have hheeded := h.heeded
    cases hserved : c.isServed
    · rw [lastWords_of_not_isServed hserved] at hheeded
      exact .inr ⟨turn_of_not_isServed hserved, hheeded⟩
    · have hstopping := h.stopping ho hserved
      obtain ⟨s, hs, stop⟩ := hstopping
      refine .inl ⟨s, hs, settleOccurrences_of_stopping hs stop, hheeded, ?_⟩
      rw [IsStopping.settle ⟨s, hs, stop⟩ h.coherent hs hserved]
  · have hserved := h.isServed_of_turn_eq_none ho ht
    rw [h.coherent.state_eq_phase]
    rw [isServed_eq] at hserved
    have hshape := h.course.shape
    have hbroken := mt h.course.isBroken_iff.2 (by simp [hbroken])
    cases hphase : c.phase <;> rw [hphase] at hserved hshape hbroken <;> try cases hserved
    · obtain ⟨url, hurl⟩ := hbegun
      exact absurd hurl (not_mem_of_course_eq hshape rfl List.not_mem_nil)
    · exact absurd (.inr rfl) hbroken
    · rfl

/-- After whatever moves, every stop request was heeded and every one will be, and after a step a
client whose session was asked to stop is closed, unless the callback broke down. -/
theorem heeds_chronicle (reader : Address.Reader) (settings : Settings) (moves : List Move) :
    Heeds (chronicle reader settings moves).2 ∧
    (∀ c ∈ (chronicle reader settings moves).1, Halts c (chronicle reader settings moves).2) ∧
    ∀ (step : Step) (c : Client),
      (chronicle reader settings (moves ++ [.step step])).1 = some c →
      let chapter := (chapters (chronicle reader settings (moves ++ [.step step])).2).current
      (∃ o ∈ chapter, o.asksToStop = true) → (∃ url, .logged (.connect url) ∈ chapter) →
        isBroken chapter = false → c.state = .closed := by
  obtain ⟨c, ⟨hpast, hheeding⟩, hclient⟩ := heeding_chronicle reader settings moves
  have hall : ∀ {chapter earlier later : List Occurrence} {o : Occurrence},
      chapter ∈ (chapters (chronicle reader settings moves).2).all →
        chapter = earlier ++ o :: later → o.asksToStop = true →
          ∃ words, Aftermath earlier o later words := by
    intro chapter earlier later o hchapter h ho
    rcases List.mem_append.1 hchapter with hchapter | hchapter
    · exact ⟨_, hpast chapter hchapter h ho⟩
    · rw [List.mem_singleton.1 hchapter] at h
      exact ⟨_, hheeding.heeded h ho⟩
  refine ⟨⟨hall, fun hchapter h ho => ?_, fun hchapter => hpast _ hchapter⟩, fun c' hc' => ?_, ?_⟩
  · obtain ⟨words, hafter⟩ := hall hchapter h ho
    exact hafter.isWork_eq_false
  · rw [hclient c' hc']
    exact hheeding.halts
  · intro step c' hc' chapter ho hbegun hbroken
    obtain ⟨c₁, ⟨-, hheeding₁⟩, hclient₁⟩ :=
      heeding_chronicle reader settings (moves ++ [.step step])
    obtain rfl := hclient₁ c' hc'
    exact hheeding₁.halts.ends ho hbegun (turn_of_chronicle hc') hbroken

/-- A callback closes the client and goes on sending, and so does somebody else; all of it is
accepted, and only the greeting is ever written. -/
example :
    let frame := "\x7b\"type\":\"event\",\"event\":\"message\",\"data\":\x7b" ++
      "\"room\":\"r\",\"user\":\"u\",\"text\":\"t\"\x7d\x7d"
    let moves : List Move := [.call (.setCallback ⟨"f", [.close, .echo]⟩), .call .connect, .turn,
      .call (.push (.text frame)), .turn, .call (.submit (.join "a")), .turn]
    let p := play .loopback ⟨"ws://[::1]", none, 0⟩ moves
    p.1.map (·.state) = some .closed ∧ p.2.current.accepted.length = 2 ∧
      p.2.current.written.length = 1 := by
  decide +kernel

end Client

end ChatLink
