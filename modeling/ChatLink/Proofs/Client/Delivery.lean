import ChatLink.Proofs.Client.Progress

/-!
# What the callback is called for

A callback is called for the items that were consumed, in the order in which the server sent them,
as far as they carry events and a callback was installed when they were consumed
(`Client.delivers_chronicle`). Which callback that was is told by the steps and actions before
(`installed`), so what a callback changes while it runs counts for later items only. Each attempt
consumes the first of its own items (`Supplies`), so that items that are left over when its service
is gone are never delivered.
-/

namespace ChatLink

/-! ## The callback that is installed -/

/-- The callback that is installed after an entry, if this one was before. -/
def Entry.installs (callback : Option Callback) : Entry → Option Callback
  | acted (.setCallback name actions) _ => some ⟨name, actions⟩
  | acted .clearCallback _ => none
  | acted (.join _) _ | acted (.leave _) _ | acted (.send _ _) _ | acted .echo _ | acted .close _
  | acted .connect _ | acted .state _ | acted .panic _ => callback
  | connect _ | refused | stalled _ | write _ | writeFailed _ | close | event _ _ => callback

/-- The callback that is installed after a step, if this one was before. -/
def Step.installs (callback : Option Callback) : Step → Option Callback
  | setCallback callback => some callback
  | clearCallback => none
  | connect | expire | submit _ | submitAll _ | close | push _ | release | configure _ | observe
  | describe | settings | drop => callback

/-- The callback that is installed afterwards, if this one was before. -/
def Occurrence.installs (callback : Option Callback) : Occurrence → Option Callback
  | made step _ => step.installs callback
  | logged entry => entry.installs callback
  | consumed _ _ | ended => callback

/-- The callback that is installed after all this. -/
def installed (told : List Occurrence) : Option Callback := told.foldl Occurrence.installs none

theorem installed_append (told more : List Occurrence) :
    installed (told ++ more) = more.foldl Occurrence.installs (installed told) :=
  List.foldl_append

theorem foldl_installs_logged (callback : Option Callback) (es : List Entry) :
    (es.map Occurrence.logged).foldl Occurrence.installs callback =
      es.foldl Entry.installs callback :=
  List.foldl_map

/-- The callbacks of all items that were consumed are the ones that were installed then. -/
def IsTimely (told : List Occurrence) : Prop :=
  ∀ (earlier : List Occurrence) (item : Item) (callback : Option Callback),
    earlier ++ [.consumed item callback] <+: told → callback = installed earlier

theorem IsTimely.snoc {told : List Occurrence} {o : Occurrence} (h : IsTimely told)
    (ho : ∀ item callback, o = .consumed item callback → callback = installed told) :
    IsTimely (told ++ [o]) := by
  intro earlier item callback he
  rcases snoc_isPrefix_snoc he with ⟨rfl, hlast⟩ | he
  · exact ho item callback hlast.symm
  · exact h _ _ _ he

/-- Where nothing is consumed, nothing is to be said. -/
theorem IsTimely.append {told more : List Occurrence} (h : IsTimely told)
    (hmore : ∀ item callback, .consumed item callback ∉ more) : IsTimely (told ++ more) := by
  induction more generalizing told with
  | nil => rwa [List.append_nil]
  | cons o more ih =>
    rw [List.append_cons]
    refine ih (h.snoc fun item callback ho => ?_) fun item callback ho => ?_
    · exact absurd (ho ▸ List.mem_cons_self) (hmore item callback)
    · exact hmore item callback (List.mem_cons_of_mem _ ho)

namespace Client

variable {settings : Settings} {c c' : Client} {s : Session} {told : List Occurrence}
  {es : List Entry}

theorem callback_submit (c : Client) (e : Envelope) : (c.submit e).1.callback = c.callback := by
  rcases c.submit_cases e with ⟨s, -, -, -, heq⟩ | ⟨-, heq⟩
  · rw [heq]
    rfl
  · rw [heq]

theorem callback_submitAll : ∀ (c : Client) (es : List Envelope),
    (c.submitAll es).1.callback = c.callback
  | _, [] => rfl
  | c, e :: es => (callback_submitAll (c.submit e).1 es).trans (c.callback_submit e)

theorem callback_push (c : Client) (item : Item) : (c.push item).1.callback = c.callback := by
  rcases c.push_cases item with ⟨s, stage, -, -, heq⟩ | ⟨-, heq⟩
  · rw [heq]
    rfl
  · rw [heq]

theorem callback_apply (c : Client) (step : Step) :
    (c.apply step).1.callback = step.installs c.callback := by
  have hreap : c.reap.1.callback = c.callback := by
    rcases hs : c.session with _ | s
    · rw [reap_of_none hs]
    · rw [reap_of_session hs]
      cases s.stage.isLooping <;> rfl
  have hclose : (c.close .application).1.callback = c.callback := by
    rcases hs : c.session with _ | s
    · rw [close_of_none hs]
    · rw [close_of_session hs]
      rfl
  cases step with
  | connect =>
    rw [apply_connect]
    rcases c.connect_cases with ⟨endpoint, -, -, heq⟩ | ⟨error, -, heq⟩ | ⟨error, -, -, heq⟩
    · rw [heq]
      rfl
    · rw [heq]
      rfl
    · rw [heq]
      exact hreap
  | expire =>
    rw [apply_expire]
    rcases c.expire_cases with ⟨s, -, -, -, heq⟩ | heq
    · rw [heq]
      rfl
    · rw [heq]
      rfl
  | submit e => exact c.callback_submit e
  | submitAll es => exact c.callback_submitAll es
  | push item => exact c.callback_push item
  | close => rw [apply_close]; exact hclose
  | drop => rw [apply_drop]; exact hclose
  | release | configure _ | setCallback _ | clearCallback | observe | describe | settings => rfl

theorem callback_act (c : Client) (e : Event) (action : Action) :
    (c.act e action).1.callback = Entry.installs c.callback (.acted action (c.act e action).2) := by
  cases action with
  | join room => exact c.callback_submit _
  | leave room => exact c.callback_submit _
  | send room text => exact c.callback_submit _
  | echo => exact c.callback_submit _
  | close =>
    rw [act]
    split <;> rfl
  | connect =>
    rw [act]
    split <;> rfl
  | state | clearCallback | setCallback _ _ | panic => rfl

theorem callback_deliver (c : Client) (frame : List UInt8) :
    (c.deliver frame).1.callback = (c.deliver frame).2.foldl Entry.installs c.callback := by
  unfold deliver
  split
  · next e callback _ _ =>
    exact actAll_invariant Entry.installs (fun c callback => c.callback = callback) e
      (fun {c callback} action h => by subst h; exact c.callback_act e action) callback.actions rfl
  · rfl

/-- A turn logs all that becomes of the callback. -/
theorem callback_turn (ht : c.turn = some (c', es)) :
    c'.callback = es.foldl Entry.installs c.callback := by
  obtain ⟨s, -, hturns⟩ := turns_of_turn ht
  cases hturns with
  | enters _ _ _ _ hg => cases hg <;> rfl
  | greets _ _ hg => cases hg <;> rfl
  | writesNext _ _ _ hw => cases hw <;> rfl
  | writesPending _ _ hw => cases hw <;> rfl
  | consumes _ _ _ _ => exact callback_deliver _ _
  | _ => rfl

theorem installed_callOccurrences (told : List Occurrence) (c : Client) (step : Step) :
    installed (told ++ c.callOccurrences step) = step.installs (installed told) := by
  obtain ⟨words, hwords, hcall⟩ := c.callOccurrences_cases step
  rw [installed_append, hcall, List.foldl_cons, List.foldl_append]
  rcases hwords with rfl | rfl | rfl <;> cases c.attempt? step <;> rfl

theorem installed_turnOccurrences (told : List Occurrence) (ht : c.turn = some (c', es)) :
    installed (told ++ c.turnOccurrences) = es.foldl Entry.installs (installed told) := by
  rw [installed_append, turnOccurrences_of_turn ht, List.foldl_append, List.foldl_append,
    foldl_installs_logged]
  rcases c.intake? with _ | item <;> rcases c.parting_cases c' with hp | hp <;> rw [hp] <;> rfl

/-- The callback of the client is the one that is installed by what was told, and so it was whenever
an item was consumed. -/
structure Timely (c : Client) (told : List Occurrence) : Prop where
  callback_eq : c.callback = installed told
  timely : IsTimely told

theorem Timely.apply (h : Timely c told) (step : Step) :
    Timely (c.apply step).1 (told ++ c.callOccurrences step) := by
  refine ⟨?_, h.timely.append fun item callback hmem => ?_⟩
  · rw [callback_apply, installed_callOccurrences, h.callback_eq]
  · obtain ⟨words, hwords, hcall⟩ := c.callOccurrences_cases step
    rw [hcall] at hmem
    rcases hwords with rfl | rfl | rfl <;> cases c.attempt? step <;> simp at hmem

theorem Timely.turn (h : Timely c told) (ht : c.turn = some (c', es)) :
    Timely c' (told ++ c.turnOccurrences) := by
  refine ⟨?_, ?_⟩
  · rw [callback_turn ht, installed_turnOccurrences told ht, h.callback_eq]
  · have hrest : ∀ item callback, .consumed item callback ∉ es.map .logged ++ c.parting c' := by
      intro item callback hmem
      rcases c.parting_cases c' with hp | hp <;> simp [hp] at hmem
    rw [turnOccurrences_of_turn ht, ← List.append_assoc]
    refine IsTimely.append ?_ hrest
    rcases c.intake? with _ | item
    · rw [Option.map_none, Option.toList_none, List.append_nil]
      exact h.timely
    · refine h.timely.snoc fun item' callback ho => ?_
      cases ho
      exact h.callback_eq

theorem Timely.new (reader : Address.Reader) (settings : Settings) :
    Timely (.new reader settings) [] :=
  ⟨rfl, fun _ _ _ he => absurd (List.prefix_nil.1 he) (by simp)⟩

theorem timely_chronicle (reader : Address.Reader) (settings : Settings) (moves : List Move) :
    IsTimely (chronicle reader settings moves).2 := by
  obtain ⟨c, h, -⟩ := chronicle_invariant Timely (fun step h => h.apply step)
    (fun h ht => h.turn ht) (.new reader settings) moves
  exact h.timely

end Client

/-! ## The items that are consumed -/

/-- The items that a chapter says were consumed. -/
def consumedItems (chapter : List Occurrence) : List Item := (consumptions chapter).map Prod.fst

/-- The items that were consumed are the first ones of those that an open transport took, and the
others are still in the inbox, as long as there is one. -/
def Supplies (consumed pushed : List Item) : Option Stage → Prop
  | some .held => consumed = [] ∧ pushed = []
  | some (.greeting inbox) | some (.serving inbox _) | some (.leaving (some inbox)) =>
    pushed = consumed ++ inbox
  | some (.leaving none) | some (.parting _ _) | some .ended | some .panicked | none =>
    consumed <+: pushed

namespace Supplies

variable {consumed pushed : List Item} {stage stage' : Stage}

theorem isPrefix {stage : Option Stage} (h : Supplies consumed pushed stage) :
    consumed <+: pushed := by
  unfold Supplies at h
  split at h
  · obtain ⟨rfl, rfl⟩ := h
    exact List.prefix_rfl
  · exact ⟨_, h.symm⟩
  · exact ⟨_, h.symm⟩
  · exact ⟨_, h.symm⟩
  all_goals exact h

/-- Whatever is left over is in the inbox of the transport, while it is open. -/
theorem of_inbox? {inbox : List Item} (h : Supplies consumed pushed (some stage))
    (hi : stage.inbox? = some inbox) : pushed = consumed ++ inbox := by
  cases stage with
  | greeting _ | serving _ _ => cases hi; exact h
  | leaving _ => cases hi; exact h
  | held | parting _ _ | ended | panicked => cases hi

/-- A transport that is closed leaves the rest. -/
theorem await (h : consumed <+: pushed) (farewell : Farewell) (grace : Nat) :
    Supplies consumed pushed (some (farewell.await grace)) := by
  rcases farewell.await_cases grace with hawait | ⟨_, hawait⟩ <;> rw [hawait] <;> exact h

/-- One more item is taken by an open transport. -/
theorem receive {item : Item} (h : Supplies consumed pushed (some stage))
    (hst : stage.receive item = some stage') :
    Supplies consumed (pushed ++ [item]) (some stage') := by
  rcases Stage.receive_cases hst with ⟨_, rfl, rfl⟩ | ⟨_, _, rfl, rfl⟩ | ⟨_, rfl, rfl⟩ <;>
    exact (congrArg (· ++ [item]) h).trans (List.append_assoc _ _ _)

end Supplies

theorem Stage.inbox?_of_talk? {stage : Stage} {inbox : List Item} (h : stage.talk? = some inbox) :
    stage.inbox? = some inbox := by
  cases stage <;> first | exact h | cases h

theorem pushes_append (chapter more : List Occurrence) :
    pushes (chapter ++ more) = pushes chapter ++ pushes more :=
  List.filterMap_append

theorem consumedItems_append (chapter more : List Occurrence) :
    consumedItems (chapter ++ more) = consumedItems chapter ++ consumedItems more := by
  rw [consumedItems, consumptions, List.filterMap_append, List.map_append]
  rfl

namespace Client

variable {settings : Settings} {c c' : Client} {s : Session} {told chapter : List Occurrence}
  {es : List Entry} {consumed pushed : List Item}

theorem pushes_logged (es : List Entry) (c c' : Client) :
    pushes (es.map .logged ++ c.parting c') = [] := by
  rcases c.parting_cases c' with hp | hp <;> simp [pushes, hp]

theorem consumedItems_logged (es : List Entry) (c c' : Client) :
    consumedItems (es.map .logged ++ c.parting c') = [] := by
  rcases c.parting_cases c' with hp | hp <;> simp [consumedItems, consumptions, hp]

theorem pushes_callOccurrences (c : Client) (step : Step) :
    pushes (c.callOccurrences step) = pushes [.made step (c.apply step).2.1] := by
  obtain ⟨words, hwords, hcall⟩ := c.callOccurrences_cases step
  rw [hcall, ← List.singleton_append, pushes_append]
  rcases hwords with rfl | rfl | rfl <;> cases c.attempt? step <;> exact List.append_nil _

theorem consumedItems_callOccurrences (c : Client) (step : Step) :
    consumedItems (c.callOccurrences step) = [] := by
  obtain ⟨words, hwords, hcall⟩ := c.callOccurrences_cases step
  rw [hcall]
  rcases hwords with rfl | rfl | rfl <;> cases c.attempt? step <;> rfl

theorem pushes_turnOccurrences (ht : c.turn = some (c', es)) : pushes c.turnOccurrences = [] := by
  rw [turnOccurrences_of_turn ht, pushes_append, pushes_logged]
  cases c.intake? <;> rfl

theorem consumedItems_turnOccurrences (ht : c.turn = some (c', es)) :
    consumedItems c.turnOccurrences = c.intake?.toList := by
  rw [turnOccurrences_of_turn ht, consumedItems_append, consumedItems_logged]
  cases c.intake? <;> rfl

/-- A call that begins no attempt leaves the supply as it is, or the transport takes one more item,
or there is no transport any more and the rest is left. -/
theorem supplies_apply (h : Supplies consumed pushed c.stage?) {step : Step}
    (hattempt : c.attempt? step = none) :
    Supplies consumed (pushed ++ pushes [.made step (c.apply step).2.1])
      (c.apply step).1.stage? := by
  have hsame : ∀ {c' : Client}, c'.stage? = c.stage? →
      Supplies consumed (pushed ++ []) c'.stage? := by
    intro c' hstage
    rwa [hstage, List.append_nil]
  have hgone : ∀ {c' : Client}, c'.session = none →
      Supplies consumed (pushed ++ []) c'.stage? := by
    intro c' hs
    rw [stage?, hs, List.append_nil]
    exact h.isPrefix
  cases step with
  | connect =>
    rw [apply_connect]
    obtain ⟨error, ⟨heq, -⟩ | ⟨-, heq, -⟩⟩ := connect_of_attempt?_eq_none hattempt
    · rw [heq]
      exact hsame rfl
    · rw [heq]
      exact hgone c.session_reap
  | expire =>
    rw [apply_expire]
    rcases c.expire_cases with ⟨s, -, -, -, heq⟩ | heq
    · rw [heq]
      exact h.isPrefix.trans (List.prefix_append _ _)
    · exact hsame (by rw [heq])
  | submit e => exact hsame (c.stage?_submit e)
  | submitAll es => exact hsame (c.stage?_submitAll es)
  | push item =>
    rw [apply_push]
    rcases c.push_cases item with ⟨s, stage, hs, hst, heq⟩ | ⟨-, heq⟩
    · rw [stage?_of_session hs rfl] at h
      rw [heq]
      exact h.receive hst
    · rw [heq]
      exact hsame rfl
  | close => rw [apply_close]; exact hgone c.session_close
  | drop => rw [apply_drop]; exact hgone c.session_close
  | release | configure _ | setCallback _ | clearCallback | observe | describe | settings =>
    exact hsame rfl

/-- What an attempt leaves when another one begins is not delivered, and the next one has taken
nothing yet. -/
theorem supplies_begun (h : Supplies (consumedItems chapter) (pushes chapter) c.stage?)
    (step : Step) (url : String) :
    consumedItems (chapter ++ .made step (.called .ok) :: c.lastWords) <+:
        pushes (chapter ++ .made step (.called .ok) :: c.lastWords) ∧
      Supplies (consumedItems [.logged (.connect url)]) (pushes [.logged (.connect url)])
        c.begin.stage? := by
  refine ⟨?_, rfl, rfl⟩
  have hnone : consumedItems (.made step (.called .ok) :: c.lastWords) = [] := by
    rcases c.lastWords_cases with hwords | hwords | hwords <;> rw [hwords] <;> rfl
  rw [consumedItems_append, hnone, List.append_nil, pushes_append]
  exact h.isPrefix.trans (List.prefix_append _ _)

/-- The item that a turn takes is the next one of the inbox. -/
theorem supplies_consume {item : Item} (h : Supplies consumed pushed c.stage?)
    (ht : c.turn = some (c', es)) (hitem : c.intake? = some item) :
    Supplies (consumed ++ [item]) pushed c'.stage? := by
  obtain ⟨s, inbox, hs, hst, hconsume⟩ := exists_consume_of_intake? hitem
  rw [stage?_of_session hs hst] at h
  have hnext : pushed = (consumed ++ [item]) ++ inbox := h.trans (List.append_cons _ _ _)
  rw [hconsume, Option.some.injEq, consume] at ht
  cases hi : item.frame? with
  | none =>
    rw [hi] at ht
    obtain ⟨rfl, rfl⟩ := Prod.mk.inj ht
    exact hnext
  | some frame =>
    rw [hi] at ht
    rw [← (show _ = c' from congrArg Prod.fst ht)]
    rcases stage?_deliver (c.withSession { s with stage := .serving inbox none }) frame with
      hstage | hstage
    · rw [hstage]
      exact hnext
    · rw [hstage]
      exact ⟨inbox, hnext.symm⟩

/-- A turn takes the next item out of the inbox, or none. -/
theorem supplies_turn (h : Supplies consumed pushed c.stage?) (ht : c.turn = some (c', es)) :
    Supplies (consumed ++ c.intake?.toList) pushed c'.stage? := by
  cases hitem : c.intake? with
  | some item => exact supplies_consume h ht hitem
  | none =>
    rw [Option.toList_none, List.append_nil]
    obtain ⟨s, hs, hturns⟩ := turns_of_turn ht
    have hgone := h.isPrefix
    rw [stage?_of_session hs rfl] at h
    have hheld : s.stage = .held → pushed = consumed ++ [] := by
      intro hst
      rw [hst] at h
      obtain ⟨rfl, rfl⟩ := h
      rfl
    -- the inbox of an open transport stays the same where nothing is taken out of it
    cases hturns with
    | quits hst _ => exact h.of_inbox? (Stage.inbox?_of_talk? hst)
    | greetingWaits hst _ _ _ _ => exact hheld hst
    | enters hst _ _ _ hg =>
      cases hg with
      | fails _ | arrives _ => exact hheld hst
    | greets hst _ hg =>
      cases hg with
      | fails _ | arrives _ => exact h.of_inbox? (by rw [hst]; rfl)
    | writeWaits hst _ _ _ | deserted hst _ _ => exact h.of_inbox? (by rw [hst]; rfl)
    | writesNext hst _ _ hw | writesPending hst _ hw =>
      cases hw with
      | fails _ | arrives _ => exact h.of_inbox? (by rw [hst]; rfl)
    | ends hst stop hq _ | consumes hst stop hq _ =>
      rw [intake?_eq_some hs hst stop hq] at hitem
      cases hitem
    | @awaits farewell grace _ => exact .await hgone farewell grace
    | givesUp _ _ | refused _ _ _ _ | closes _ | returns _ => exact hgone

/-! ## Runs -/

theorem supplies_callOccurrences (h : Supplies (consumedItems chapter) (pushes chapter) c.stage?)
    {step : Step} (hattempt : c.attempt? step = none) :
    Supplies (consumedItems (chapter ++ c.callOccurrences step))
      (pushes (chapter ++ c.callOccurrences step)) (c.apply step).1.stage? := by
  rw [consumedItems_append, consumedItems_callOccurrences, List.append_nil, pushes_append,
    pushes_callOccurrences]
  exact supplies_apply h hattempt

theorem supplies_turnOccurrences (h : Supplies (consumedItems chapter) (pushes chapter) c.stage?)
    (ht : c.turn = some (c', es)) :
    Supplies (consumedItems (chapter ++ c.turnOccurrences)) (pushes (chapter ++ c.turnOccurrences))
      c'.stage? := by
  rw [consumedItems_append, consumedItems_turnOccurrences ht, pushes_append,
    pushes_turnOccurrences ht, List.append_nil]
  exact supplies_turn h ht

/-- Each attempt is supplied with the items of its own transport, and so was each before it. -/
structure Fed (c : Client) (told : List Occurrence) : Prop where
  past : ∀ chapter ∈ (chapters told).past, consumedItems chapter <+: pushes chapter
  current :
    Supplies (consumedItems (chapters told).current) (pushes (chapters told).current) c.stage?

theorem fed_chronicle (reader : Address.Reader) (settings : Settings) (moves : List Move) :
    ∃ c, Fed c (chronicle reader settings moves).2 ∧
      ∀ c' ∈ (chronicle reader settings moves).1, c' = c := by
  have hnew : Supplies [] [] (Client.new reader settings).stage? := List.prefix_rfl
  obtain ⟨c, ⟨hpast, hcurrent⟩, hclient⟩ := chapters_invariant
    (fun c chapter => Supplies (consumedItems chapter) (pushes chapter) c.stage?)
    (fun chapter => consumedItems chapter <+: pushes chapter)
    (fun h _ => supplies_begun h _ _)
    (fun h hattempt => supplies_callOccurrences h hattempt)
    (fun h ht => supplies_turnOccurrences h ht) hnew moves
  exact ⟨c, ⟨hpast, hcurrent⟩, hclient⟩

end Client

/-- In a chapter the callback is called for what was consumed, and for nothing else. -/
structure Delivers (hello : String) (chapter : List Occurrence) : Prop where
  /-- The events are those of the items that were consumed while a callback was installed, in this
  order, under the callback's name. -/
  events_eq : events chapter = (consumptions chapter).filterMap fun c => c.1.delivery? c.2
  /-- They are delivered as soon as they are consumed. -/
  atOnce {earlier : List Occurrence} {name : String} {e : Event}
      (h : earlier ++ [.logged (.event name e)] <+: chapter) :
    ∃ before item callback, earlier = before ++ [.consumed item callback] ∧
      item.delivery? callback = some (name, e)
  /-- The items that are consumed are the first ones that the transport took. -/
  inOrder : consumedItems chapter <+: pushes chapter
  /-- None is consumed before the greeting is written. -/
  greeted {earlier : List Occurrence} {item : Item} {callback : Option Callback}
      (h : earlier ++ [.consumed item callback] <+: chapter) : .logged (.write hello) ∈ earlier
  /-- None is consumed after one that says that nothing more will come. -/
  frames {earlier : List Occurrence} {item item' : Item} {callback callback' : Option Callback}
      (h : earlier ++ [.consumed item callback] <+: chapter)
      (h' : .consumed item' callback' ∈ earlier) : item'.frame?.isSome = true
  /-- Nothing is consumed or delivered once the service is gone. -/
  gone {earlier : List Occurrence} {o : Occurrence} (h : earlier ++ [o] <+: chapter)
      (hended : .ended ∈ earlier) : o.isStep = true

theorem Goes.isStep_of_isOver {hello : String} {p q : Phase} {o : Occurrence}
    (h : Goes hello p o q) (hp : p.isOver = true) : o.isStep = true := by
  cases h with
  | stays _ _ _ | ignored _ _ | noticed _ _ => rfl
  | greets hp' | greetingFails hp' => rcases hp' with rfl | rfl <;> cases hp
  | _ => cases hp

theorem Goes.eq_serving_of_consumed {hello : String} {p q : Phase} {item : Item}
    {callback : Option Callback} (h : Goes hello p (.consumed item callback) q) :
    p = .serving := by
  cases h <;> rfl

theorem Course.delivers {hello : String} {chapter : List Occurrence} {p : Phase}
    (h : Course hello chapter p) (hp : p.isSteady = true ∨ p = .broken)
    (hsupply : consumedItems chapter <+: pushes chapter) : Delivers hello chapter := by
  refine ⟨?_, fun he => ?_, hsupply, fun he => ?_, fun he hmem => ?_, fun he hended => ?_⟩
  · have hdue : p.due = [] := by
      rcases hp with hp | rfl
      · cases p <;> first | rfl | cases hp
      · rfl
    have hevents := h.events_eq
    rwa [hdue, List.append_nil] at hevents
  · obtain ⟨q, q', hq, hgoes⟩ := h.goes_of_isPrefix he
    cases hgoes with
    | delivers _ _ => exact hq.exists_consumed
  · obtain ⟨q, q', hq, hgoes⟩ := h.goes_of_isPrefix he
    exact hq.greeted (.inl hgoes.eq_serving_of_consumed)
  · obtain ⟨q, q', hq, hgoes⟩ := h.goes_of_isPrefix he
    refine hq.isSome_frame? ?_ hmem
    rw [hgoes.eq_serving_of_consumed]
    rfl
  · obtain ⟨q, q', hq, hgoes⟩ := h.goes_of_isPrefix he
    exact hgoes.isStep_of_isOver (hq.ended_mem_iff.1 hended)

namespace Client

variable {settings : Settings} {c : Client}

/-- The callback is called for exactly what each attempt consumed, under the name of the callback
that was installed then, and each attempt consumes the first of its own items. -/
theorem delivers_chronicle (reader : Address.Reader) (settings : Settings) (moves : List Move) :
    let told := (chronicle reader settings moves).2
    (∀ earlier item callback, earlier ++ [.consumed item callback] <+: told →
      callback = installed earlier) ∧
    (∀ chapter ∈ (chapters told).all, Delivers settings.greeting chapter) ∧
    ∀ c ∈ (chronicle reader settings moves).1, ∀ stage ∈ c.stage?, ∀ inbox ∈ stage.inbox?,
      pushes (chapters told).current = consumedItems (chapters told).current ++ inbox := by
  obtain ⟨c₁, hfollows, -⟩ := follows_chronicle reader settings moves
  obtain ⟨c₂, hfed, hclient⟩ := fed_chronicle reader settings moves
  refine ⟨timely_chronicle reader settings moves, fun chapter hchapter => ?_,
    fun c hc stage hstage inbox hinbox => ?_⟩
  · obtain ⟨p, hcourse, hsteady⟩ := hfollows.exists_course hchapter
    refine hcourse.delivers hsteady ?_
    rcases List.mem_append.1 hchapter with hchapter | hchapter
    · exact hfed.past chapter hchapter
    · rw [List.mem_singleton.1 hchapter]
      exact hfed.current.isPrefix
  · obtain rfl := hclient c hc
    have hsupply := hfed.current
    rw [hstage] at hsupply
    exact hsupply.of_inbox? hinbox

end Client

end ChatLink
