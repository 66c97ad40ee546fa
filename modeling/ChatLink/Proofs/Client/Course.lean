import ChatLink.Proofs.Client.Chronicle

/-!
# The course of an attempt

A service goes through phases. `Goes` lists everything that can happen in a phase, and the phase
that it leads to, for somebody who sees the chronicle and not the client; a chapter is a `Course`
if it begins before any attempt and everything in it could happen where it did. What is known of a
chapter in a phase is read off this list : what the service has done (`Course.shape`), whether it
is gone (`Course.ended_mem_iff`), and what was delivered (`Course.events_eq`). What comes before a
thing that happens is a course (`Course.goes_of_isPrefix`), so that all this is known of every
earlier moment too.

A service that forces the state to closed because it was asked to stop, because its time ran out or
because nobody can send anything any more says nothing of it (`Phase.Quits`). So the phase is not to
be told from the chapter alone before the transport is closed or the service gone; but a client that
has settled is in a phase in which it can rest (`Phase.isResting`).
-/

namespace ChatLink

/-- The step takes the session down. -/
def Step.closes : Step → Bool
  | close | drop => true
  | connect | expire | submit _ | submitAll _ | push _ | release | configure _ | setCallback _
  | clearCallback | observe | describe | settings => false

/-- The callback that is called when the item is consumed, by name, and the event that it is called
for. -/
def Item.delivery? (item : Item) (callback : Option Callback) : Option (String × Event) := do
  let frame ← item.frame?
  let e ← (Frame.decode frame).toOption
  let callback ← callback
  return (callback.name, e)

/-! ## Phases -/

/-- Where an attempt stands. -/
inductive Phase where
  /-- No attempt was ever begun. -/
  | before
  | held
  /-- The write of the greeting waits. -/
  | greeting
  | serving
  /-- An item was consumed that the callback is to be called for. -/
  | calling (callback : String) (e : Event)
  /-- The transport is about to be closed. -/
  | closing
  /-- There is no transport that is not closed, or is being closed, and the service is about to be
  gone. -/
  | leaving
  /-- The callback broke down, and the service is about to be gone. -/
  | breaking
  /-- The service is gone because the callback broke down, and nobody has noticed. -/
  | broken
  | gone

namespace Phase

/-- Steps can be made, and change nothing about the phase. -/
def isSteady : Phase → Bool
  | before | held | greeting | serving | closing | leaving | gone => true
  | calling _ _ | breaking | broken => false

/-- The service can be unable to go on by itself. -/
def isResting : Phase → Bool
  | before | held | greeting | serving | broken | gone => true
  | calling _ _ | closing | leaving | breaking => false

/-- The service is gone. -/
def isOver : Phase → Bool
  | gone | broken => true
  | before | held | greeting | serving | calling _ _ | closing | leaving | breaking => false

/-- Items may be consumed now or later. -/
def listens : Phase → Bool
  | before | held | greeting | serving | calling _ _ => true
  | closing | leaving | breaking | broken | gone => false

/-- The event that was consumed and not delivered yet. -/
def due : Phase → List (String × Event)
  | calling callback e => [(callback, e)]
  | before | held | greeting | serving | closing | leaving | breaking | broken | gone => []

/-- The service forces the state to closed, and nothing is told of it. -/
inductive Quits : Phase → Phase → Prop
  /-- The attempt runs out of time, or is stopped. -/
  | held : Quits held leaving
  | greeting : Quits greeting closing
  | serving : Quits serving closing

end Phase

/-- Everything that can happen in a phase of an attempt whose greeting is this, and the phase that
comes then. -/
inductive Goes (hello : String) : Phase → Occurrence → Phase → Prop
  | stays {p : Phase} (hp : p.isSteady = true) (step : Step) (reply : Reply) :
    Goes hello p (.made step reply) p
  | ignored {step : Step} (hs : step.closes = false) (reply : Reply) :
    Goes hello .broken (.made step reply) .broken
  | noticed {step : Step} (hs : step.closes = true) (reply : Reply) :
    Goes hello .broken (.made step reply) .gone
  | begins (url : String) : Goes hello .before (.logged (.connect url)) .held
  | refused : Goes hello .held (.logged .refused) .leaving
  | waits : Goes hello .held (.logged (.stalled hello)) .greeting
  | greets {p : Phase} (hp : p = .held ∨ p = .greeting) :
      Goes hello p (.logged (.write hello)) .serving
  | greetingFails {p : Phase} (hp : p = .held ∨ p = .greeting) :
    Goes hello p (.logged (.writeFailed hello)) .closing
  | writeWaits (payload : String) : Goes hello .serving (.logged (.stalled payload)) .serving
  | writes (payload : String) : Goes hello .serving (.logged (.write payload)) .serving
  | writeFails (payload : String) : Goes hello .serving (.logged (.writeFailed payload)) .closing
  /-- A frame is passed over. -/
  | passes {item : Item} {callback : Option Callback} (hi : item.frame?.isSome = true)
      (hd : item.delivery? callback = none) : Goes hello .serving (.consumed item callback) .serving
  | calls {item : Item} {callback : Option Callback} {name : String} {e : Event}
      (hd : item.delivery? callback = some (name, e)) :
    Goes hello .serving (.consumed item callback) (.calling name e)
  | delivers (name : String) (e : Event) :
    Goes hello (.calling name e) (.logged (.event name e)) .serving
  | acts {action : Action} (ha : action ≠ .panic) (outcome : Outcome) :
    Goes hello .serving (.logged (.acted action outcome)) .serving
  | panics (outcome : Outcome) : Goes hello .serving (.logged (.acted .panic outcome)) .breaking
  | breaks : Goes hello .breaking .ended .broken
  /-- The item says that nothing more will come. -/
  | ends {item : Item} (hi : item.frame? = none) (callback : Option Callback) :
    Goes hello .serving (.consumed item callback) .closing
  | hangsUp : Goes hello .closing (.logged .close) .leaving
  | leaves : Goes hello .leaving .ended .gone

/-- The chapter begins before any attempt, and all of it could happen where it did. -/
inductive Course (hello : String) : List Occurrence → Phase → Prop
  | start : Course hello [] .before
  | quits {chapter : List Occurrence} {p q : Phase} (h : Course hello chapter p)
      (hq : p.Quits q) : Course hello chapter q
  | snoc {chapter : List Occurrence} {p q : Phase} {o : Occurrence} (h : Course hello chapter p)
      (ho : Goes hello p o q) : Course hello (chapter ++ [o]) q

/-! ## What is known of a course -/

/-- The write of this entry is the one of the greeting, which begins when the transport is open. -/
def Entry.Opens (hello : String) (entry : Entry) : Prop :=
  entry = .stalled hello ∨ entry = .write hello ∨ entry = .writeFailed hello

/-- This needs an open transport, and leaves it open. -/
def Occurrence.isTraffic : Occurrence → Bool
  | logged (.connect _) | logged .refused | logged .close | logged (.acted .panic _) => false
  | logged (.stalled _) | logged (.write _) | logged (.writeFailed _) | logged (.event _ _)
  | logged (.acted _ _) | consumed _ _ => true
  | made _ _ | ended => false

/-- What a service does while its transport is open, the greeting first of all. -/
structure Traffic (hello : String) (body : List Occurrence) : Prop where
  opens : ∃ entry rest, body = .logged entry :: rest ∧ entry.Opens hello
  keeps : ∀ o ∈ body, o.isTraffic = true

/-- Everything that a service does, from the beginning of the attempt until it is gone. -/
inductive Finished (hello : String) : List Occurrence → Prop
  /-- The attempt was still held when it ran out of time or was stopped. -/
  | givenUp (url : String) : Finished hello [.logged (.connect url), .ended]
  | refused (url : String) : Finished hello [.logged (.connect url), .logged .refused, .ended]
  | closed (url : String) {body : List Occurrence} (h : Traffic hello body) :
    Finished hello (.logged (.connect url) :: (body ++ [.logged .close, .ended]))
  | broken (url : String) {body : List Occurrence} (outcome : Outcome) (h : Traffic hello body) :
    Finished hello
      (.logged (.connect url) :: (body ++ [.logged (.acted .panic outcome), .ended]))

/-- What the service of a chapter has done when the attempt stands in a phase. -/
def Phase.Shape (hello : String) : Phase → List Occurrence → Prop
  | before, done => done = []
  | held, done => ∃ url, done = [.logged (.connect url)]
  | greeting, done => ∃ url, done = [.logged (.connect url), .logged (.stalled hello)]
  | serving, done | calling _ _, done | closing, done =>
    ∃ url body, Traffic hello body ∧ done = .logged (.connect url) :: body
  | leaving, done =>
    (∃ url, done = [.logged (.connect url)]) ∨
      (∃ url, done = [.logged (.connect url), .logged .refused]) ∨
      ∃ url body, Traffic hello body ∧ done = .logged (.connect url) :: (body ++ [.logged .close])
  | breaking, done =>
    ∃ url body outcome, Traffic hello body ∧
      done = .logged (.connect url) :: (body ++ [.logged (.acted .panic outcome)])
  | broken, done | gone, done => Finished hello done

/-- The callback broke down, and the session was not taken down since. -/
def isBroken (chapter : List Occurrence) : Bool :=
  chapter.foldl (fun broken o =>
    match o with
    | .logged (.acted .panic _) => true
    | .made step _ => broken && !step.closes
    | .logged _ | .consumed _ _ | .ended => broken) false

/-- The items that the server sent and an open transport took. -/
def pushes (chapter : List Occurrence) : List Item :=
  chapter.filterMap fun
    | .made (.push item) (.pushed true) => some item
    | .made _ _ | .logged _ | .consumed _ _ | .ended => none

/-- The items that were consumed, with the callbacks that were installed then. -/
def consumptions (chapter : List Occurrence) : List (Item × Option Callback) :=
  chapter.filterMap fun
    | .consumed item callback => some (item, callback)
    | .made _ _ | .logged _ | .ended => none

/-- The events that a callback was called for, with the callbacks' names. -/
def events (chapter : List Occurrence) : List (String × Event) :=
  chapter.filterMap fun
    | .logged (.event name e) => some (name, e)
    | .made _ _ | .logged _ | .consumed _ _ | .ended => none

theorem Traffic.of_opens {hello : String} {entry : Entry} (h : entry.Opens hello) :
    Traffic hello [.logged entry] := by
  refine ⟨⟨entry, [], rfl, h⟩, fun o ho => ?_⟩
  rw [List.mem_singleton.1 ho]
  rcases h with rfl | rfl | rfl <;> rfl

theorem Traffic.snoc {hello : String} {body : List Occurrence} {o : Occurrence}
    (h : Traffic hello body) (ho : o.isTraffic = true) : Traffic hello (body ++ [o]) := by
  obtain ⟨⟨entry, rest, rfl, hentry⟩, hbody⟩ := h
  refine ⟨⟨entry, rest ++ [o], rfl, hentry⟩, fun o' ho' => ?_⟩
  rcases List.mem_append.1 ho' with ho' | ho'
  · exact hbody o' ho'
  · rwa [List.mem_singleton.1 ho']

/-- Once no item may be consumed, none ever is. -/
theorem Goes.listens {hello : String} {p q : Phase} {o : Occurrence} (h : Goes hello p o q)
    (hq : q.listens = true) : p.listens = true := by
  cases h with
  | stays _ _ _ => exact hq
  | greets hp => rcases hp with rfl | rfl <;> rfl
  | begins _ | waits | writeWaits _ | writes _ | passes _ _ | calls _ | delivers _ _ | acts _ _ =>
    rfl
  | _ => cases hq

theorem Item.isSome_frame?_of_delivery? {item : Item} {callback : Option Callback}
    {d : String × Event} (h : item.delivery? callback = some d) : item.frame?.isSome = true := by
  obtain ⟨frame, hf, -⟩ := Option.bind_eq_some_iff.1 h
  rw [hf]
  rfl

theorem Occurrence.isTraffic_acted {action : Action} (ha : action ≠ .panic) (outcome : Outcome) :
    (logged (.acted action outcome)).isTraffic = true := by
  cases action with
  | panic => exact absurd rfl ha
  | _ => rfl

theorem course_snoc_step (chapter : List Occurrence) (step : Step) (reply : Reply) :
    course (chapter ++ [.made step reply]) = course chapter := by
  rw [course, List.filter_append]
  exact List.append_nil _

theorem course_snoc {o : Occurrence} (chapter : List Occurrence) (ho : o.isStep = false) :
    course (chapter ++ [o]) = course chapter ++ [o] := by
  rw [course, List.filter_append, List.filter_cons_of_pos (by rw [ho]; rfl)]
  rfl

theorem mem_course {chapter : List Occurrence} {o : Occurrence} :
    o ∈ course chapter ↔ o ∈ chapter ∧ o.isStep = false := by
  simp [course]

theorem not_mem_of_course_eq {chapter done : List Occurrence} {o : Occurrence}
    (h : course chapter = done) (ho : o.isStep = false) (hn : o ∉ done) : o ∉ chapter :=
  fun hmem => hn (h ▸ mem_course.2 ⟨hmem, ho⟩)

namespace Course

variable {hello : String} {chapter : List Occurrence} {p : Phase}

/-- Everything in a course could happen where it did, and what comes before it is a course. -/
theorem goes_of_isPrefix (h : Course hello chapter p) {earlier : List Occurrence} {o : Occurrence}
    (he : earlier ++ [o] <+: chapter) : ∃ q q', Course hello earlier q ∧ Goes hello q o q' := by
  induction h with
  | start => exact absurd (List.prefix_nil.1 he) (by simp)
  | quits _ _ ih => exact ih he
  | snoc h ho ih =>
    rcases snoc_isPrefix_snoc he with ⟨rfl, rfl⟩ | he
    · exact ⟨_, _, h, ho⟩
    · exact ih he

theorem shape (h : Course hello chapter p) : p.Shape hello (course chapter) := by
  induction h with
  | start => exact rfl
  | quits h hq ih =>
    cases hq with
    | held => exact .inl ih
    | greeting =>
      obtain ⟨url, ih⟩ := ih
      exact ⟨url, _, .of_opens (.inl rfl), ih⟩
    | serving => exact ih
  | @snoc chapter p q o h ho ih =>
    cases ho with
    | stays _ _ _ | ignored _ _ | noticed _ _ =>
      rw [course_snoc_step]
      exact ih
    | begins url =>
      have ih : course chapter = [] := ih
      rw [course_snoc _ rfl, ih]
      exact ⟨url, rfl⟩
    | refused =>
      obtain ⟨url, ih⟩ := ih
      rw [course_snoc _ rfl, ih]
      exact .inr (.inl ⟨url, rfl⟩)
    | waits =>
      obtain ⟨url, ih⟩ := ih
      rw [course_snoc _ rfl, ih]
      exact ⟨url, rfl⟩
    | greets hp =>
      rw [course_snoc _ rfl]
      rcases hp with rfl | rfl
      · obtain ⟨url, ih⟩ := ih
        exact ⟨url, _, .of_opens (.inr (.inl rfl)), by rw [ih]; rfl⟩
      · obtain ⟨url, ih⟩ := ih
        exact ⟨url, _, (Traffic.of_opens (.inl rfl)).snoc rfl, by rw [ih]; rfl⟩
    | greetingFails hp =>
      rw [course_snoc _ rfl]
      rcases hp with rfl | rfl
      · obtain ⟨url, ih⟩ := ih
        exact ⟨url, _, .of_opens (.inr (.inr rfl)), by rw [ih]; rfl⟩
      · obtain ⟨url, ih⟩ := ih
        exact ⟨url, _, (Traffic.of_opens (.inl rfl)).snoc rfl, by rw [ih]; rfl⟩
    | hangsUp =>
      obtain ⟨url, body, hbody, ih⟩ := ih
      rw [course_snoc _ rfl, ih]
      exact .inr (.inr ⟨url, body, hbody, rfl⟩)
    | leaves =>
      rw [course_snoc _ rfl]
      rcases ih with ⟨url, ih⟩ | ⟨url, ih⟩ | ⟨url, body, hbody, ih⟩
      · rw [ih]
        exact .givenUp url
      · rw [ih]
        exact .refused url
      · rw [ih, List.cons_append, List.append_assoc]
        exact .closed url hbody
    | panics outcome =>
      obtain ⟨url, body, hbody, ih⟩ := ih
      rw [course_snoc _ rfl, ih]
      exact ⟨url, body, outcome, hbody, rfl⟩
    | breaks =>
      obtain ⟨url, body, outcome, hbody, ih⟩ := ih
      rw [course_snoc _ rfl, ih, List.cons_append, List.append_assoc]
      exact .broken url outcome hbody
    | acts ha outcome =>
      obtain ⟨url, body, hbody, ih⟩ := ih
      rw [course_snoc _ rfl, ih]
      exact ⟨url, _, hbody.snoc (Occurrence.isTraffic_acted ha outcome), rfl⟩
    | writeWaits _ | writes _ | writeFails _ | passes _ _ | calls _ | delivers _ _ | ends _ _ =>
      obtain ⟨url, body, hbody, ih⟩ := ih
      rw [course_snoc _ rfl, ih]
      exact ⟨url, _, hbody.snoc rfl, rfl⟩

/-- A service is gone in the phases that say so, and in no other. -/
theorem ended_mem_iff (h : Course hello chapter p) : .ended ∈ chapter ↔ p.isOver = true := by
  induction h with
  | start => simp [Phase.isOver]
  | quits _ hq ih => cases hq <;> exact ih
  | snoc h ho ih =>
    rw [List.mem_append, List.mem_singleton, ih]
    cases ho with
    | greets hp => rcases hp with rfl | rfl <;> simp [Phase.isOver]
    | greetingFails hp => rcases hp with rfl | rfl <;> simp [Phase.isOver]
    | _ => simp [Phase.isOver]

/-- Where a service serves, it has written its greeting. -/
theorem greeted (h : Course hello chapter p) (hp : p = .serving ∨ ∃ name e, p = .calling name e) :
    .logged (.write hello) ∈ chapter := by
  induction h with
  | start => rcases hp with hp | ⟨name, e, hp⟩ <;> cases hp
  | quits _ hq _ => cases hq <;> rcases hp with hp | ⟨name, e, hp⟩ <;> cases hp
  | snoc h ho ih =>
    rw [List.mem_append]
    cases ho with
    | greets => exact .inr (List.mem_singleton_self _)
    | stays hsteady => exact .inl (ih hp)
    | delivers name e => exact .inl (ih (.inr ⟨name, e, rfl⟩))
    | writeWaits _ | writes _ | passes _ _ | calls _ | acts _ _ => exact .inl (ih (.inl rfl))
    | _ => rcases hp with hp | ⟨name, e, hp⟩ <;> cases hp

/-- A breakdown that nobody has noticed is one in the chapter. -/
theorem isBroken_iff (h : Course hello chapter p) :
    isBroken chapter = true ↔ p = .breaking ∨ p = .broken := by
  induction h with
  | start => simp [isBroken]
  | quits _ hq ih => cases hq <;> simp_all
  | @snoc chapter p q o h ho ih =>
    rw [isBroken, List.foldl_append, ← isBroken, List.foldl_cons, List.foldl_nil]
    cases ho with
    | stays hp step => cases p <;> simp_all [Phase.isSteady]
    | @acts action ha outcome => cases action <;> simp_all
    | greets hp => rcases hp with rfl | rfl <;> simp [ih]
    | greetingFails hp => rcases hp with rfl | rfl <;> simp [ih]
    | _ => simp_all

/-- As long as items may be consumed, all that were consumed are frames. -/
theorem isSome_frame? (h : Course hello chapter p) (hp : p.listens = true) {item : Item}
    {callback : Option Callback} (hi : .consumed item callback ∈ chapter) :
    item.frame?.isSome = true := by
  induction h with
  | start => exact absurd hi List.not_mem_nil
  | quits _ hq _ => cases hq <;> cases hp
  | snoc h ho ih =>
    rcases List.mem_append.1 hi with hi | hi
    · exact ih (ho.listens hp) hi
    · obtain rfl := List.mem_singleton.1 hi
      cases ho with
      | passes hi _ => exact hi
      | calls hd => exact Item.isSome_frame?_of_delivery? hd
      | ends _ _ => cases hp

/-- An event is delivered right after its item was consumed. -/
theorem exists_consumed {name : String} {e : Event} (h : Course hello chapter (.calling name e)) :
    ∃ earlier item callback, chapter = earlier ++ [.consumed item callback] ∧
      item.delivery? callback = some (name, e) := by
  cases h with
  | quits _ hq => cases hq
  | snoc h ho =>
    cases ho with
    | stays hp => cases hp
    | calls hd => exact ⟨_, _, _, rfl, hd⟩

/-- What was delivered is what was consumed, as far as a callback is called for it. -/
theorem events_eq (h : Course hello chapter p) :
    events chapter ++ p.due = (consumptions chapter).filterMap fun c => c.1.delivery? c.2 := by
  induction h with
  | start => rfl
  | quits _ hq ih => cases hq <;> exact ih
  | @snoc chapter p q o h ho ih =>
    rw [events, consumptions, List.filterMap_append, List.filterMap_append, ← events,
      ← consumptions, List.filterMap_append, ← ih]
    cases ho with
    | stays hp => cases p <;> simp_all [Phase.isSteady, Phase.due]
    | greets hp => rcases hp with rfl | rfl <;> simp [Phase.due]
    | greetingFails hp => rcases hp with rfl | rfl <;> simp [Phase.due]
    | passes _ hd => simp [Phase.due, hd]
    | calls hd => simp [Phase.due, hd]
    | ends hi _ => simp [Phase.due, Item.delivery?, hi]
    | _ => simp [Phase.due]

/-- A step that does not take the session down changes nothing. -/
theorem made (h : Course hello chapter p) (hp : p.isSteady = true ∨ p = .broken) {step : Step}
    (hs : step.closes = false) (reply : Reply) :
    Course hello (chapter ++ [.made step reply]) p := by
  rcases hp with hp | rfl
  · exact h.snoc (.stays hp step reply)
  · exact h.snoc (.ignored hs reply)

theorem snoc₂ {q r : Phase} {o o' : Occurrence} (h : Course hello chapter p)
    (ho : Goes hello p o q) (ho' : Goes hello q o' r) : Course hello (chapter ++ [o, o']) r := by
  rw [List.append_cons]
  exact (h.snoc ho).snoc ho'

end Course

end ChatLink
