import ChatLink.Proofs.Client.Ledger
import ChatLink.Proofs.Client.State
import Mathlib.Data.List.Induction

/-!
# Chronicles

A log does not say everything : it is silent when an item is taken out of the inbox and nobody is
called for it, and when a service has ended. A chronicle (`Client.chronicle`)
says these things too, and the steps with their answers, all in the order in which they happen.
What it says about entries is the log (`Client.entries_occurrences`, `Client.entries_chronicle`).

A chronicle is read in chapters : what happens before the first attempt to connect, and then one
chapter for each attempt, from its connect entry on (`chapters`). `Client.chronicle_invariant`
carries what single calls and single turns preserve to all runs of a client, in whatever order calls
and turns come, and `Client.chapters_invariant` does the same for what is known of one chapter : it
is preserved where the chapter goes on, and the next chapter begins with it.
-/

namespace ChatLink

/-- One thing that happens to a client. -/
inductive Occurrence where
  /-- A step is made, and answered. -/
  | made (step : Step) (reply : Reply)
  /-- The service leaves an entry in the log. -/
  | logged (entry : Entry)
  /-- The service takes an item out of the inbox, while this callback is installed. -/
  | consumed (item : Item) (callback : Option Callback)
  /-- The service is gone. -/
  | ended

namespace Occurrence

/-- An attempt to connect begins. -/
def begins : Occurrence → Bool
  | logged (.connect _) => true
  | logged _ | made _ _ | consumed _ _ | ended => false

/-- This is a step, and nothing that the service does. -/
def isStep : Occurrence → Bool
  | made _ _ => true
  | logged _ | consumed _ _ | ended => false

/-- The entry that the log gets. -/
def entry? : Occurrence → Option Entry
  | logged entry => some entry
  | made _ _ | consumed _ _ | ended => none

end Occurrence

/-! ## Chapters -/

/-- A chronicle in parts. -/
structure Chapters where
  /-- The chapters that are complete, oldest first. The first one is the time before any attempt. -/
  past : List (List Occurrence)
  current : List Occurrence

namespace Chapters

/-- All chapters, oldest first. -/
def all (cs : Chapters) : List (List Occurrence) := cs.past ++ [cs.current]

/-- One more thing happens. -/
def note (cs : Chapters) (o : Occurrence) : Chapters :=
  if o.begins then ⟨cs.all, [o]⟩ else ⟨cs.past, cs.current ++ [o]⟩

end Chapters

/-- The chapters of a chronicle. -/
def chapters (told : List Occurrence) : Chapters := told.foldl .note ⟨[], []⟩

/-- The part that the service has in a chapter. -/
def course (chapter : List Occurrence) : List Occurrence := chapter.filter (!·.isStep)

theorem chapters_append (told more : List Occurrence) :
    chapters (told ++ more) = more.foldl .note (chapters told) :=
  List.foldl_append

theorem chapters_snoc (told : List Occurrence) (o : Occurrence) :
    chapters (told ++ [o]) = (chapters told).note o :=
  chapters_append told [o]

/-- Where no attempt begins, the current chapter goes on. -/
theorem chapters_append_of_not_begins {told more : List Occurrence}
    (h : ∀ o ∈ more, o.begins = false) :
    chapters (told ++ more) = ⟨(chapters told).past, (chapters told).current ++ more⟩ := by
  induction more generalizing told with
  | nil => rw [List.append_nil, List.append_nil]
  | cons o more ih =>
    have ho : chapters (told ++ [o]) = ⟨(chapters told).past, (chapters told).current ++ [o]⟩ := by
      rw [chapters_snoc, Chapters.note, h o List.mem_cons_self]
      rfl
    rw [List.append_cons, ih fun o ho => h o (List.mem_cons_of_mem _ ho), ho, ← List.append_cons]

/-- With an attempt that begins the chapter before it is complete. -/
theorem chapters_append_begins {told more : List Occurrence} {url : String}
    (h : ∀ o ∈ more, o.begins = false) :
    chapters (told ++ (more ++ [.logged (.connect url)])) =
      ⟨(chapters told).past ++ [(chapters told).current ++ more], [.logged (.connect url)]⟩ := by
  rw [← List.append_assoc, chapters_snoc, chapters_append_of_not_begins h]
  rfl

/-- What was told up to some moment is all, or it was told before the last thing happened. -/
theorem snoc_isPrefix_snoc {earlier told : List Occurrence} {o o' : Occurrence}
    (h : earlier ++ [o] <+: told ++ [o']) : earlier = told ∧ o = o' ∨ earlier ++ [o] <+: told := by
  rcases List.prefix_concat_iff.1 h with heq | h
  · obtain ⟨hearlier, hlast⟩ := List.append_inj' heq rfl
    exact .inl ⟨hearlier, List.singleton_inj.1 hlast⟩
  · exact .inr h

/-- What was told at an earlier moment : the chapters that were complete still are, and the chapter
that was current is the beginning of one. -/
theorem chapters_of_isPrefix {earlier told : List Occurrence} (h : earlier <+: told) :
    (chapters earlier).past <+: (chapters told).past ∧
      ∃ chapter ∈ (chapters told).all, (chapters earlier).current <+: chapter := by
  obtain ⟨more, rfl⟩ := h
  induction more using List.reverseRecOn with
  | nil => exact ⟨by simp, _, by simp [Chapters.all], List.prefix_rfl⟩
  | append_singleton more o ih =>
    obtain ⟨hpast, chapter, hmem, hchapter⟩ := ih
    rw [← List.append_assoc, chapters_snoc, Chapters.note]
    split
    · exact ⟨hpast.trans (List.prefix_append _ _), chapter, List.mem_append_left _ hmem, hchapter⟩
    · refine ⟨hpast, ?_⟩
      rcases List.mem_append.1 hmem with hmem | hmem
      · exact ⟨chapter, List.mem_append_left _ hmem, hchapter⟩
      · rw [List.mem_singleton.1 hmem] at hchapter
        exact ⟨_, List.mem_append_right _ (List.mem_singleton_self _),
          hchapter.trans (List.prefix_append _ _)⟩

/-! ## What happens to a client -/

namespace Client

/-- A service is at work for the client. -/
def isServed (c : Client) : Bool := c.stage?.any Stage.isRunning

/-- The item that the next turn takes out of the inbox, if it takes one. -/
def intake? (c : Client) : Option Item := do
  let s ← c.session
  match s.stage with
  | .serving inbox none =>
    if s.stopping then none
    else
      match s.outbox.receive.1 with
      | .pending => inbox.head?
      | .item _ | .ended => none
  | .held | .greeting _ | .serving _ (some _) | .leaving _ | .parting _ _ | .ended
  | .panicked => none

/-- The service is gone, if it was at work before and is no more. -/
def parting (before after : Client) : List Occurrence :=
  if before.isServed && !after.isServed then [.ended] else []

/-- What happens in one turn of the service. -/
def turnOccurrences (c : Client) : List Occurrence :=
  match c.turn with
  | some (next, entries) =>
    (c.intake?.map (.consumed · c.callback)).toList ++ (entries.map .logged ++ c.parting next)
  | none => []

/-- What happens in the turns that settle the service. -/
def settleOccurrences (c : Client) : List Occurrence :=
  match h : c.turn with
  | some (next, _) =>
    have := load_turn h
    c.turnOccurrences ++ next.settleOccurrences
  | none => []
termination_by c.load
decreasing_by assumption

/-- The client whose service a step waits for, if it waits for one. -/
def awaited? (c : Client) : Step → Option Client
  | .close | .drop => some { c with state := .closing }.halt
  | .connect => if c.refusal? .application = none then some c.halt else none
  | .expire | .submit _ | .submitAll _ | .push _ | .release | .configure _ | .setCallback _
  | .clearCallback | .observe | .describe | .settings => none

/-- The address to which a step begins to connect, if it does. -/
def attempt? (c : Client) : Step → Option String
  | .connect =>
    if c.refusal? .application = none then
      (Endpoint.parse c.reader c.settings.endpoint).toOption.map (·.text)
    else none
  | .expire | .submit _ | .submitAll _ | .close | .push _ | .release | .configure _
  | .setCallback _ | .clearCallback | .observe | .describe | .settings | .drop => none

/-- What happens in the effect of a step alone : it is answered, the end of a service is waited for
if need be, and an attempt begins if the step is to begin one. -/
def callOccurrences (c : Client) (step : Step) : List Occurrence :=
  .made step (c.apply step).2.1 ::
    (((c.awaited? step).map settleOccurrences).getD [] ++
      ((c.attempt? step).map fun url => .logged (.connect url)).toList)

/-- What a service still does that is asked to stop : it closes its transport, if it has one, and is
gone. -/
def lastWords (c : Client) : List Occurrence :=
  c.partingEntries.map .logged ++ if c.isServed then [.ended] else []

/-- What happens in a move. Nothing happens to a client that is given up. -/
def occurrences : Option Client → Move → List Occurrence
  | none, _ => []
  | some c, .step s => c.callOccurrences s ++ (c.apply s).1.settleOccurrences
  | some c, .call s => c.callOccurrences s
  | some c, .turn => c.turnOccurrences

/-- A client makes a move, and it is told what happens. -/
def recounted (p : Option Client × List Occurrence) (m : Move) :
    Option Client × List Occurrence :=
  ((move p.1 m).1, p.2 ++ occurrences p.1 m)

/-- The moves of a client that was never connected, and what happens in them. -/
def chronicle (reader : Address.Reader) (settings : Settings) (moves : List Move) :
    Option Client × List Occurrence :=
  moves.foldl recounted (some (.new reader settings), [])

variable {c c' : Client} {es : List Entry}

theorem isServed_of_stage? {stage : Stage} (h : c.stage? = some stage) :
    c.isServed = stage.isRunning := by
  rw [isServed, h]
  rfl

theorem isServed_of_none (h : c.stage? = none) : c.isServed = false := by
  rw [isServed, h]
  rfl

theorem parting_of_isServed (h : c'.isServed = true) : c.parting c' = [] := by
  simp [parting, h]

theorem parting_of_ends (h : c.isServed = true) (h' : c'.isServed = false) :
    c.parting c' = [.ended] := by
  simp [parting, h, h']

theorem parting_cases (c c' : Client) : c.parting c' = [] ∨ c.parting c' = [.ended] := by
  unfold parting
  split
  · exact .inr rfl
  · exact .inl rfl

theorem entries_parting (c c' : Client) : (c.parting c').filterMap Occurrence.entry? = [] := by
  unfold parting
  split <;> rfl

theorem entries_logged (es : List Entry) :
    (es.map Occurrence.logged).filterMap Occurrence.entry? = es := by
  rw [List.filterMap_map]
  exact List.filterMap_some

theorem turnOccurrences_of_turn (h : c.turn = some (c', es)) :
    c.turnOccurrences =
      (c.intake?.map (.consumed · c.callback)).toList ++ (es.map .logged ++ c.parting c') := by
  rw [turnOccurrences, h]

theorem turnOccurrences_of_turn_eq_none (h : c.turn = none) : c.turnOccurrences = [] := by
  rw [turnOccurrences, h]

theorem settleOccurrences_of_turn (h : c.turn = some (c', es)) :
    c.settleOccurrences = c.turnOccurrences ++ c'.settleOccurrences := by
  rw [settleOccurrences]
  split
  · next h' => rw [h] at h'; cases h'; rfl
  · next h' => rw [h] at h'; cases h'

theorem settleOccurrences_of_turn_eq_none (h : c.turn = none) : c.settleOccurrences = [] := by
  rw [settleOccurrences]
  split
  · next h' => rw [h] at h'; cases h'
  · rfl

/-! ## What a turn takes out of the inbox -/

/-- The item that is taken out of the inbox is consumed. -/
theorem exists_consume_of_intake? {item : Item} (h : c.intake? = some item) :
    ∃ s inbox, c.session = some s ∧ s.stage = .serving (item :: inbox) none ∧
      c.turn = some (c.consume s item inbox) := by
  obtain ⟨s, hs, h⟩ := Option.bind_eq_some_iff.1 h
  split at h
  · next inbox hst =>
    split at h
    · cases h
    · next stop =>
      split at h
      · next hr =>
        rcases inbox with _ | ⟨first, inbox⟩
        · cases h
        · cases h
          refine ⟨s, inbox, hs, hst, ?_⟩
          rw [turn_of_session hs, turnOf, hst]
          dsimp only
          rw [if_neg stop, serve]
          split
          · next hr' => rw [hr'] at hr; cases hr
          · next hr' => rw [hr'] at hr; cases hr
          · rfl
      · cases h
      · cases h
  all_goals cases h

theorem intake?_of_turn_eq_none (ht : c.turn = none) : c.intake? = none := by
  by_contra hitem
  obtain ⟨item, hitem⟩ := Option.ne_none_iff_exists'.1 hitem
  obtain ⟨s, inbox, -, -, ht'⟩ := exists_consume_of_intake? hitem
  cases ht.symm.trans ht'

/-! ## A service that was asked to stop -/

/-- A service that was asked to stop takes nothing out of its inbox. -/
theorem intake?_of_stopping {s : Session} (hs : c.session = some s) (stop : s.stopping = true) :
    c.intake? = none := by
  rw [intake?, hs]
  dsimp only [Option.bind_eq_bind, Option.bind_some]
  split
  · rw [if_pos stop]
  all_goals rfl

/-- A turn does not take a stop request back. -/
theorem stopping_of_turns {s : Session} (h : Turns c s c' es) (stop : s.stopping = true) :
    ∃ s', c'.session = some s' ∧ s'.stopping = true := by
  cases h with
  | givesUp _ _ | quits _ _ | closes _ | awaits _ | returns _ => exact ⟨_, rfl, stop⟩
  | refused _ hfalse _ _ | greetingWaits _ hfalse _ _ _ | enters _ hfalse _ _ _ | greets _ hfalse _
  | writeWaits _ hfalse _ _ | writesNext _ hfalse _ _ | writesPending _ hfalse _
  | deserted _ hfalse _ | ends _ hfalse _ _ | consumes _ hfalse _ _ =>
    cases stop.symm.trans hfalse

/-- A client that nobody is at work for takes no turn. -/
theorem turn_of_not_isServed (h : c.isServed = false) : c.turn = none := by
  rcases hs : c.session with _ | s
  · exact turn_of_none hs
  · have hstage : c.stage? = some s.stage := by rw [stage?, hs]; rfl
    exact turn_of_done hs ((isServed_of_stage? hstage).symm.trans h)

theorem isServed_of_turn (h : c.turn = some (c', es)) : c.isServed = true := by
  by_contra hserved
  cases h.symm.trans (turn_of_not_isServed (by simpa using hserved))

/-- Nothing is told of a service that was asked to stop but what it logs, and that it is gone. -/
theorem settleOccurrences_eq_parting {s : Session} (hs : c.session = some s)
    (stop : s.stopping = true) :
    c.settleOccurrences = c.settle.2.map .logged ++ c.parting c.settle.1 := by
  fun_induction settle c generalizing s with
  | case1 c h =>
    rw [settleOccurrences_of_turn_eq_none h, parting]
    cases c.isServed <;> rfl
  | case2 c next entries h _ last more hsettle ih =>
    obtain ⟨s₁, hs₁, hturns⟩ := turns_of_turn h
    obtain rfl := Option.some.inj (hs.symm.trans hs₁)
    obtain ⟨s', hs', stop'⟩ := stopping_of_turns hturns stop
    have hserved := isServed_of_turn h
    have hrest := ih hs' stop'
    rw [hsettle] at hrest
    rw [settleOccurrences_of_turn h, turnOccurrences_of_turn h, intake?_of_stopping hs stop, hrest,
      List.map_append]
    -- the service is gone with this turn, or it is gone with a later one
    cases hnext : next.isServed with
    | true => simp [parting, hserved, hnext]
    | false =>
      rw [settle_of_turn_eq_none (turn_of_not_isServed hnext)] at hsettle
      cases hsettle
      simp [parting, hserved, hnext]

theorem lastWords_of_none (hs : c.session = none) : c.lastWords = [] := by
  rw [lastWords, partingEntries_of_none hs, isServed_of_none (by rw [stage?, hs]; rfl)]
  rfl

theorem lastWords_of_session {s : Session} (hs : c.session = some s) :
    c.lastWords = (if s.stage.inbox?.isSome then [.logged .close] else []) ++
      if s.stage.isRunning then [.ended] else [] := by
  have hstage : c.stage? = some s.stage := by rw [stage?, hs]; rfl
  rw [lastWords, partingEntries_of_session hs, isServed_of_stage? hstage]
  split <;> rfl

theorem lastWords_cases (c : Client) :
    c.lastWords = [] ∨ c.lastWords = [.ended] ∨ c.lastWords = [.logged .close, .ended] := by
  rcases hs : c.session with _ | s
  · exact .inl (lastWords_of_none hs)
  · rw [lastWords_of_session hs]
    rcases s.stage with _ | _ | _ | (_ | _) | _ | _ | _ <;> simp [Stage.inbox?, Stage.isRunning]

/-- A service that was asked to stop has its last words, and nothing else is told of it. -/
theorem settleOccurrences_of_stopping {s : Session} (hs : c.session = some s)
    (stop : s.stopping = true) : c.settleOccurrences = c.lastWords := by
  have hlast : s.stage.last.isRunning = false := by cases s.stage <;> rfl
  rw [settleOccurrences_eq_parting hs stop, settle_of_stopping hs stop, lastWords,
    partingEntries_of_session hs, parting]
  show _ ++ (if c.isServed && !s.stage.last.isRunning then [Occurrence.ended] else []) = _
  rw [hlast, Bool.not_false, Bool.and_true]

/-- Whoever waits for a service that he asked to stop sees its last words. -/
theorem settleOccurrences_halt (c : Client) : c.halt.settleOccurrences = c.lastWords := by
  rcases hs : c.session with _ | s
  · have hhalt : c.halt.session = none := by rw [halt, hs, Option.map_none]
    rw [settleOccurrences_of_turn_eq_none (turn_of_none hhalt), lastWords_of_none hs]
  · have hhalt : c.halt.session =
        some { s with stopping := true, outbox := s.outbox.dropSender 0 } := by
      rw [halt, hs, Option.map_some]
    rw [settleOccurrences_of_stopping hhalt rfl, lastWords_of_session hs,
      lastWords_of_session hhalt]

/-- What is told of a call : it is answered, there may be the last words of a service that is waited
for, and an attempt may begin. -/
theorem callOccurrences_cases (c : Client) (step : Step) :
    ∃ words, (words = [] ∨ words = [.ended] ∨ words = [.logged .close, .ended]) ∧
      c.callOccurrences step = .made step (c.apply step).2.1 ::
        (words ++ ((c.attempt? step).map fun url => .logged (.connect url)).toList) := by
  refine ⟨_, ?_, rfl⟩
  cases step with
  | close | drop =>
    rw [awaited?, Option.map_some, Option.getD_some, settleOccurrences_halt]
    exact lastWords_cases _
  | connect =>
    rw [awaited?]
    split
    · rw [Option.map_some, Option.getD_some, settleOccurrences_halt]
      exact lastWords_cases _
    · exact .inl rfl
  | _ => exact .inl rfl

theorem entries_lastWords (c : Client) :
    c.lastWords.filterMap Occurrence.entry? = c.partingEntries := by
  rw [lastWords, List.filterMap_append, entries_logged]
  cases c.isServed <;> exact List.append_nil _

/-! ## A chronicle tells the log -/

theorem entries_turnOccurrences (h : c.turn = some (c', es)) :
    c.turnOccurrences.filterMap Occurrence.entry? = es := by
  rw [turnOccurrences_of_turn h, List.filterMap_append, List.filterMap_append, entries_logged,
    entries_parting, List.append_nil]
  cases c.intake? <;> rfl

theorem entries_settleOccurrences (c : Client) :
    c.settleOccurrences.filterMap Occurrence.entry? = c.settle.2 := by
  fun_induction settle c with
  | case1 c h => rw [settleOccurrences_of_turn_eq_none h]; rfl
  | case2 c next entries h _ last more hs ih =>
    rw [settleOccurrences_of_turn h, List.filterMap_append, entries_turnOccurrences h, ih, hs]

/-- What the call logs : what a service logs that is waited for, and the attempt that begins. -/
theorem apply_entries (c : Client) (step : Step) :
    (c.apply step).2.2 =
      ((c.awaited? step).map partingEntries).getD [] ++
        ((c.attempt? step).map .connect).toList := by
  have hclose : (c.close .application).2 = c.partingEntries := by
    rcases hs : c.session with _ | s
    · rw [close_of_none hs, partingEntries_of_none hs]
    · rw [close_of_session hs]
  have hreap : c.reap.2 = c.partingEntries := by
    rcases hs : c.session with _ | s
    · rw [reap_of_none hs, partingEntries_of_none hs]
    · rw [reap_of_session hs]
  cases step with
  | connect =>
    rw [apply_connect]
    rcases c.connect_cases with ⟨endpoint, hr, hp, heq⟩ | ⟨error, hr, heq⟩ | ⟨error, hr, hp, heq⟩
    · rw [heq]
      simp [awaited?, attempt?, hr, hp, Except.toOption, hreap, partingEntries_halt]
    · rw [heq]
      simp [awaited?, attempt?, hr]
    · rw [heq]
      simp [awaited?, attempt?, hr, hp, Except.toOption, hreap, partingEntries_halt]
  | close =>
    rw [apply_close, hclose]
    simp [awaited?, attempt?, partingEntries_halt]
    rfl
  | drop =>
    rw [apply_drop, hclose]
    simp [awaited?, attempt?, partingEntries_halt]
    rfl
  | expire | submit _ | submitAll _ | push _ | release | configure _ | setCallback _
  | clearCallback | observe | describe | settings => rfl

theorem entries_callOccurrences (c : Client) (step : Step) :
    (c.callOccurrences step).filterMap Occurrence.entry? = (c.apply step).2.2 := by
  have hhalt : ∀ c : Client, c.halt.settleOccurrences.filterMap Occurrence.entry? =
      c.halt.partingEntries := by
    intro c
    rw [settleOccurrences_halt, entries_lastWords, partingEntries_halt]
  have hawaited : (((c.awaited? step).map settleOccurrences).getD []).filterMap
      Occurrence.entry? = ((c.awaited? step).map partingEntries).getD [] := by
    cases step with
    | close | drop => exact hhalt _
    | connect =>
      rw [awaited?]
      split
      · exact hhalt _
      · rfl
    | _ => rfl
  have hattempt :
      ((c.attempt? step).map fun url => Occurrence.logged (.connect url)).toList.filterMap
        Occurrence.entry? = ((c.attempt? step).map .connect).toList := by
    cases c.attempt? step <;> rfl
  rw [callOccurrences, List.filterMap_cons_none rfl, List.filterMap_append, hawaited, hattempt,
    apply_entries]

/-- The entries of what happens in a move are the log of the move. -/
theorem entries_occurrences (client : Option Client) (m : Move) :
    (occurrences client m).filterMap Occurrence.entry? = (move client m).2.log := by
  rcases client with _ | c
  · cases m <;> rfl
  · cases m with
    | step s =>
      rw [occurrences, List.filterMap_append, entries_callOccurrences, entries_settleOccurrences]
      exact (c.perform_eq s).2.1.symm
    | call s => exact c.entries_callOccurrences s
    | turn =>
      show c.turnOccurrences.filterMap _ = c.takeTurn.2.log
      unfold takeTurn
      split
      · next h => exact entries_turnOccurrences h
      · next h => rw [turnOccurrences_of_turn_eq_none h]; rfl

/-! ## Runs -/

theorem chronicle_snoc (reader : Address.Reader) (settings : Settings) (moves : List Move)
    (m : Move) :
    chronicle reader settings (moves ++ [m]) = recounted (chronicle reader settings moves) m :=
  List.foldl_append

/-- The entries of the chronicle of a script are the logs of its steps, one after the other. -/
theorem entries_chronicle (reader : Address.Reader) (settings : Settings) (script : List Step) :
    (chronicle reader settings (script.map .step)).2.filterMap Occurrence.entry? =
      (run (some (.new reader settings)) script).flatMap (·.log) := by
  have hrecounted : ∀ (script : List Step) (p : Option Client × List Occurrence),
      ((script.map Move.step).foldl recounted p).2.filterMap Occurrence.entry? =
        p.2.filterMap Occurrence.entry? ++ (run p.1 script).flatMap (·.log) := by
    intro script
    induction script with
    | nil => exact fun p => (List.append_nil _).symm
    | cons step rest ih =>
      intro p
      rw [List.map_cons, List.foldl_cons, ih, recounted, List.filterMap_append,
        entries_occurrences, List.append_assoc]
      rfl
  exact hrecounted script _

section Invariant

variable (P : Client → List Occurrence → Prop)
  (call : ∀ {c : Client} {told : List Occurrence} (step : Step), P c told →
    P (c.apply step).1 (told ++ c.callOccurrences step))
  (turn : ∀ {c c' : Client} {told : List Occurrence} {es : List Entry}, P c told →
    c.turn = some (c', es) → P c' (told ++ c.turnOccurrences))

include turn in
/-- What every turn preserves, the turns that settle a service preserve. -/
theorem settleOccurrences_invariant {c : Client} {told : List Occurrence} (h : P c told) :
    P c.settle.1 (told ++ c.settleOccurrences) := by
  fun_induction settle c generalizing told with
  | case1 c ht => rwa [settleOccurrences_of_turn_eq_none ht, List.append_nil]
  | case2 c next entries ht _ last more hs ih =>
    rw [settleOccurrences_of_turn ht, ← List.append_assoc]
    simpa only [hs] using ih (turn h ht)

include call turn in
theorem occurrences_invariant {c : Client} {told : List Occurrence} (h : P c told) (m : Move) :
    ∃ c', P c' (told ++ occurrences (some c) m) ∧ ∀ c₁ ∈ (move (some c) m).1, c₁ = c' := by
  cases m with
  | step s =>
    refine ⟨_, ?_, (c.perform_eq s).2.2⟩
    rw [occurrences, ← List.append_assoc]
    exact settleOccurrences_invariant P turn (call s h)
  | call s => exact ⟨_, call s h, fun c₁ hc => (Option.some.inj hc).symm⟩
  | turn =>
    refine ⟨c.takeTurn.1, ?_, fun c₁ hc => (Option.some.inj hc).symm⟩
    show P c.takeTurn.1 (told ++ c.turnOccurrences)
    unfold takeTurn
    split
    · next ht => exact turn h ht
    · next ht => rwa [turnOccurrences_of_turn_eq_none ht, List.append_nil]

include call turn in
/-- What holds of a client and of what was told of it, and is preserved by every call and by every
turn, holds after all further moves. A client that is given up is remembered as it was then. -/
theorem recounted_invariant {c : Client} {told : List Occurrence} (h : P c told)
    (moves : List Move) :
    ∃ c', P c' (moves.foldl recounted (some c, told)).2 ∧
      ∀ c₁ ∈ (moves.foldl recounted (some c, told)).1, c₁ = c' := by
  induction moves using List.reverseRecOn with
  | nil => exact ⟨_, h, fun c₁ hc => (Option.some.inj hc).symm⟩
  | append_singleton moves m ih =>
    obtain ⟨c', hc, hclient⟩ := ih
    rw [List.foldl_append, List.foldl_cons, List.foldl_nil]
    rcases hp : moves.foldl recounted (some c, told) with ⟨_ | c₀, told'⟩
    · rw [hp] at hc
      refine ⟨c', by simpa only [recounted, occurrences, List.append_nil] using hc, ?_⟩
      cases m <;> exact fun c₁ hc' => absurd hc' (Option.not_mem_none c₁)
    · rw [hp] at hc hclient
      obtain rfl := hclient c₀ rfl
      exact occurrences_invariant P call turn hc m

include call turn in
/-- What holds of a client that was never connected and is preserved by every call and by every
turn holds after all moves. -/
theorem chronicle_invariant {reader : Address.Reader} {settings : Settings}
    (new : P (.new reader settings) []) (moves : List Move) :
    ∃ c, P c (chronicle reader settings moves).2 ∧
      ∀ c' ∈ (chronicle reader settings moves).1, c' = c :=
  recounted_invariant P call turn new moves

end Invariant

/-! ## Runs, chapter by chapter -/

/-- A callback logs its actions, and nothing else. -/
theorem exists_acted (e : Event) : ∀ (c : Client) (actions : List Action),
    ∀ entry ∈ (c.actAll e actions).2, ∃ action outcome, entry = .acted action outcome
  | c, [], entry, h => absurd h List.not_mem_nil
  | c, action :: rest, entry, h => by
    unfold actAll at h
    split at h
    · next hn => cases hn
    · exact ⟨_, _, List.mem_singleton.1 h⟩
    · next hc =>
      obtain ⟨rfl, rfl⟩ := List.cons.inj hc
      rcases List.mem_cons.1 h with rfl | h
      · exact ⟨_, _, rfl⟩
      · exact exists_acted e _ rest entry h

/-- No attempt begins because a frame is consumed : an action that asks for one is refused. -/
theorem not_connect_deliver (c : Client) (frame : List UInt8) (url : String) :
    .connect url ∉ (c.deliver frame).2 := by
  unfold deliver
  split
  · next e callback _ _ =>
    rw [List.mem_cons, not_or]
    refine ⟨(fun heq => by cases heq), fun hmem => ?_⟩
    obtain ⟨action, outcome, hacted⟩ := exists_acted e c callback.actions _ hmem
    cases hacted
  · exact List.not_mem_nil

/-- Behind a step and behind an item that is taken there are the entries of a log, and at most the
end of the service. -/
theorem forall_logged (P : Occurrence → Prop) (hes : ∀ entry ∈ es, P (.logged entry))
    (hended : P .ended) (c c' : Client) : ∀ o ∈ es.map .logged ++ c.parting c', P o := by
  intro o ho
  rcases List.mem_append.1 ho with ho | ho
  · obtain ⟨entry, hentry, rfl⟩ := List.mem_map.1 ho
    exact hes entry hentry
  · rcases c.parting_cases c' with hp | hp <;> rw [hp] at ho
    · exact absurd ho List.not_mem_nil
    · rw [List.mem_singleton.1 ho]
      exact hended

/-- Where no attempt is logged, none begins. -/
theorem not_begins_logged (h : ∀ url, .connect url ∉ es) (c c' : Client) :
    ∀ o ∈ es.map .logged ++ c.parting c', o.begins = false := by
  refine forall_logged (·.begins = false) (fun entry hentry => ?_) rfl c c'
  cases entry with
  | connect url => exact absurd hentry (h url)
  | _ => rfl

theorem not_begins_turnOccurrences (ht : c.turn = some (c', es)) :
    ∀ o ∈ c.turnOccurrences, o.begins = false := by
  have hes : ∀ url, .connect url ∉ es := by
    obtain ⟨s, -, hturns⟩ := turns_of_turn ht
    intro url
    cases hturns with
    | enters _ _ _ _ hg => cases hg <;> simp
    | greets _ _ hg => cases hg <;> simp
    | writesNext _ _ _ hw => cases hw <;> simp
    | writesPending _ _ hw => cases hw <;> simp
    | consumes _ _ _ _ => exact not_connect_deliver _ _ url
    | _ => simp
  intro o ho
  rw [turnOccurrences_of_turn ht] at ho
  rcases List.mem_append.1 ho with ho | ho
  · obtain ⟨item, -, rfl⟩ := Option.map_eq_some_iff.1 (Option.mem_toList.1 ho)
    rfl
  · exact not_begins_logged hes c c' o ho

/-- No step is made in a turn. -/
theorem isStep_turnOccurrences (ht : c.turn = some (c', es)) :
    ∀ o ∈ c.turnOccurrences, o.isStep = false := by
  intro o ho
  rw [turnOccurrences_of_turn ht] at ho
  rcases List.mem_append.1 ho with ho | ho
  · obtain ⟨item, -, rfl⟩ := Option.map_eq_some_iff.1 (Option.mem_toList.1 ho)
    rfl
  · exact forall_logged (·.isStep = false) (fun _ _ => rfl) rfl c c' o ho

theorem isStep_settleOccurrences (c : Client) : ∀ o ∈ c.settleOccurrences, o.isStep = false := by
  fun_induction settle c with
  | case1 c h => simp [settleOccurrences_of_turn_eq_none h]
  | case2 c next entries h _ last more hs ih =>
    intro o ho
    rw [settleOccurrences_of_turn h] at ho
    rcases List.mem_append.1 ho with ho | ho
    · exact isStep_turnOccurrences h o ho
    · exact ih o ho

theorem not_begins_callOccurrences {step : Step} (h : c.attempt? step = none) :
    ∀ o ∈ c.callOccurrences step, o.begins = false := by
  obtain ⟨words, hwords, htold⟩ := c.callOccurrences_cases step
  rw [htold, h]
  rcases hwords with rfl | rfl | rfl <;> simp [Occurrence.begins]

/-- An attempt begins with a step that asks for it, where no session lives, once the last service
has ended. -/
theorem attempt?_eq_some {step : Step} {url : String} (h : c.attempt? step = some url) :
    step = .connect ∧ c.refusal? .application = none ∧
      c.connect .application = (c.begin, .ok, c.reap.2 ++ [.connect url]) := by
  cases step with
  | connect =>
    rcases c.connect_cases with ⟨endpoint, hr, hp, heq⟩ | ⟨error, hr, heq⟩ | ⟨error, hr, hp, heq⟩
    · simp only [attempt?, hr, if_true, hp, Except.toOption, Option.map_some,
        Option.some.injEq] at h
      exact ⟨rfl, hr, by rw [heq, h]⟩
    · simp [attempt?, hr] at h
    · simp [attempt?, hr, hp, Except.toOption] at h
  | _ => cases h

/-- A wish to connect that begins no attempt is refused; if it is the endpoint's fault, a service
that had ended was waited for. -/
theorem connect_of_attempt?_eq_none (h : c.attempt? .connect = none) :
    ∃ error, c.connect .application = (c, .refused error, []) ∧
        c.callOccurrences .connect = [.made .connect (.called (.refused error))] ∨
      c.refusal? .application = none ∧
        c.connect .application = (c.reap.1, .refused error, c.reap.2) ∧
          c.callOccurrences .connect =
            .made .connect (.called (.refused error)) :: c.lastWords := by
  have hcall : c.callOccurrences .connect = .made .connect (.called (c.connect .application).2.1) ::
      ((c.awaited? .connect).map settleOccurrences).getD [] := by
    rw [callOccurrences, h, apply_connect]
    exact congrArg _ (List.append_nil _)
  rcases c.connect_cases with ⟨endpoint, hr, hp, heq⟩ | ⟨error, hr, heq⟩ | ⟨error, hr, hp, heq⟩
  · simp [attempt?, hr, hp, Except.toOption] at h
  · refine ⟨error, .inl ⟨heq, ?_⟩⟩
    rw [hcall, heq, awaited?, hr]
    rfl
  · refine ⟨error, .inr ⟨hr, heq, ?_⟩⟩
    rw [hcall, heq, awaited?, if_pos hr, Option.map_some, Option.getD_some, settleOccurrences_halt]

theorem callOccurrences_of_begins {step : Step} {url : String} (h : c.attempt? step = some url) :
    c.callOccurrences step =
      .made step (.called .ok) :: (c.lastWords ++ [.logged (.connect url)]) := by
  obtain ⟨rfl, hr, heq⟩ := attempt?_eq_some h
  rw [callOccurrences, h, apply_connect, heq, awaited?, if_pos hr, Option.map_some,
    Option.getD_some, settleOccurrences_halt]
  rfl

/-- What holds of a client and its current chapter, and is preserved where the chapter goes on,
holds after all moves; and so does what this makes sure of where an attempt ends the chapter, for
all chapters that are complete. -/
theorem chapters_invariant (Q : Client → List Occurrence → Prop) (R : List Occurrence → Prop)
    (begun : ∀ {c : Client} {chapter : List Occurrence} {step : Step} {url : String}, Q c chapter →
      c.attempt? step = some url →
        R (chapter ++ .made step (.called .ok) :: c.lastWords) ∧
          Q c.begin [.logged (.connect url)])
    (call : ∀ {c : Client} {chapter : List Occurrence} {step : Step}, Q c chapter →
      c.attempt? step = none → Q (c.apply step).1 (chapter ++ c.callOccurrences step))
    (turn : ∀ {c c' : Client} {chapter : List Occurrence} {es : List Entry}, Q c chapter →
      c.turn = some (c', es) → Q c' (chapter ++ c.turnOccurrences))
    {reader : Address.Reader} {settings : Settings} (new : Q (.new reader settings) [])
    (moves : List Move) :
    ∃ c, ((∀ chapter ∈ (chapters (chronicle reader settings moves).2).past, R chapter) ∧
        Q c (chapters (chronicle reader settings moves).2).current) ∧
      ∀ c' ∈ (chronicle reader settings moves).1, c' = c := by
  refine chronicle_invariant
    (fun c told => (∀ chapter ∈ (chapters told).past, R chapter) ∧ Q c (chapters told).current)
    (fun {c told} step h => ?_) (fun {c c' told es} h ht => ?_)
    ⟨fun _ h => absurd h List.not_mem_nil, new⟩ moves
  · obtain ⟨hpast, hcurrent⟩ := h
    rcases hattempt : c.attempt? step with _ | url
    · rw [chapters_append_of_not_begins (not_begins_callOccurrences hattempt)]
      exact ⟨hpast, call hcurrent hattempt⟩
    · obtain ⟨hcomplete, hbegun⟩ := begun hcurrent hattempt
      obtain ⟨rfl, -, heq⟩ := attempt?_eq_some hattempt
      have hmore : ∀ o ∈ .made .connect (.called .ok) :: c.lastWords, o.begins = false := by
        rcases c.lastWords_cases with hwords | hwords | hwords <;>
          simp [hwords, Occurrence.begins]
      rw [callOccurrences_of_begins hattempt, apply_connect, heq, ← List.cons_append,
        chapters_append_begins hmore]
      refine ⟨fun chapter hchapter => ?_, hbegun⟩
      rcases List.mem_append.1 hchapter with hchapter | hchapter
      · exact hpast chapter hchapter
      · rw [List.mem_singleton.1 hchapter]
        exact hcomplete
  · obtain ⟨hpast, hcurrent⟩ := h
    rw [chapters_append_of_not_begins (not_begins_turnOccurrences ht)]
    exact ⟨hpast, turn hcurrent ht⟩

/-- A step leaves a service that can do nothing more. -/
theorem turn_of_chronicle {reader : Address.Reader} {settings : Settings} {moves : List Move}
    {step : Step} {c : Client}
    (h : (chronicle reader settings (moves ++ [.step step])).1 = some c) : c.turn = none := by
  rw [chronicle_snoc] at h
  exact turn_advance _ step c h

end Client

end ChatLink
