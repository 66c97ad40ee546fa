import ChatLink.Proofs.Client.Chronicle
import ChatLink.Proofs.Client.Trace

/-!
# Replies are written before the next item is taken

A service takes an item out of its inbox only when its outbox is empty and no write waits. So
whenever the callback is called, the greeting and everything that the session accepted before is
written, and what a callback sends is on the wire before it is called again
(`Client.prompt_chronicle`), however many items have piled up in the inbox.

The ledger can be kept from a chronicle (`ledger`), which tells what was accepted and written at
each moment of it, also in the middle of a turn. At the end it is the ledger of `Client.play`
(`Client.ledger_chronicle`).
-/

namespace ChatLink

/-! ## The ledger of a chronicle -/

/-- What happens is entered : the answers to a step, and the entries of the log. -/
def Ledger.enter (l : Ledger) : Occurrence → Ledger
  | .made step reply => l.recordAll step.offered reply.outcomes
  | .logged entry => l.note entry
  | .consumed _ _ | .ended => l

/-- The ledger of all that was told. -/
def ledger (told : List Occurrence) : Ledger := told.foldl .enter .initial

theorem ledger_append (told more : List Occurrence) :
    ledger (told ++ more) = more.foldl .enter (ledger told) :=
  List.foldl_append

/-- Where no step is made, the log says everything. -/
theorem foldl_enter_of_not_isStep {more : List Occurrence} (h : ∀ o ∈ more, o.isStep = false)
    (l : Ledger) : more.foldl .enter l = (more.filterMap Occurrence.entry?).foldl .note l := by
  induction more generalizing l with
  | nil => rfl
  | cons o more ih =>
    have ho := h o List.mem_cons_self
    have hmore := ih fun o ho => h o (List.mem_cons_of_mem _ ho)
    cases o with
    | made step reply => cases ho
    | logged entry => exact hmore _
    | consumed item callback => exact hmore _
    | ended => exact hmore _

/-! ## An account grows -/

/-- The payloads that were written. -/
def writings (told : List Occurrence) : List String :=
  told.filterMap fun
    | .logged (.write payload) => some payload
    | .logged _ | .made _ _ | .consumed _ _ | .ended => none

/-- What is told of the actions of a callback. -/
def performed (acts : List (Action × Outcome)) : List Occurrence :=
  acts.map fun act => .logged (.acted act.1 act.2)

/-- The envelopes that a callback submitted for an event, as far as they were accepted. -/
def replies (e : Event) (acts : List (Action × Outcome)) : List Envelope :=
  acts.filterMap fun act => if act.2 = .ok then act.1.envelope? e else none

namespace Ledger

/-- An account of the same connection at a later moment. -/
structure Grows (l l' : Ledger) (written : List String) : Prop where
  accepted : l.current.accepted <+: l'.current.accepted
  written : l'.current.written = l.current.written ++ written

theorem Grows.refl (l : Ledger) : Grows l l [] :=
  ⟨List.prefix_rfl, (List.append_nil _).symm⟩

theorem Grows.trans {l₁ l₂ l₃ : Ledger} {written more : List String} (h : Grows l₁ l₂ written)
    (h' : Grows l₂ l₃ more) : Grows l₁ l₃ (written ++ more) := by
  refine ⟨h.accepted.trans h'.accepted, ?_⟩
  rw [h'.written, h.written, List.append_assoc]

theorem grows_record (l : Ledger) (e : Envelope) (outcome : Outcome) :
    Grows l (l.record e outcome) [] := by
  cases outcome with
  | ok => exact ⟨List.prefix_append _ _, (List.append_nil _).symm⟩
  | refused _ | state _ | nothing | stuck => exact .refl l

theorem grows_recordAll (l : Ledger) : ∀ (es : List Envelope) (outcomes : List Outcome),
    Grows l (l.recordAll es outcomes) []
  | [], _ => .refl l
  | _ :: _, [] => .refl l
  | e :: es, outcome :: outcomes =>
    (l.grows_record e outcome).trans ((l.record e outcome).grows_recordAll es outcomes)

/-- As long as no attempt begins, the current account grows by what is accepted and written. -/
theorem grows_enter (l : Ledger) {o : Occurrence} (h : o.begins = false) :
    Grows l (l.enter o) (writings [o]) := by
  cases o with
  | made step reply => exact l.grows_recordAll _ _
  | consumed item callback => exact .refl l
  | ended => exact .refl l
  | logged entry =>
    cases entry with
    | connect url => cases h
    | write payload => exact ⟨List.prefix_rfl, rfl⟩
    | acted action outcome =>
      rw [enter, note]
      split
      · exact l.grows_record _ _
      · exact .refl l
    | event name e => exact ⟨List.prefix_rfl, (List.append_nil _).symm⟩
    | refused | stalled _ | writeFailed _ | close => exact .refl l

theorem grows_foldl_enter {more : List Occurrence} (h : ∀ o ∈ more, o.begins = false)
    (l : Ledger) : Grows l (more.foldl .enter l) (writings more) := by
  induction more generalizing l with
  | nil => exact .refl l
  | cons o more ih =>
    have hwritings : writings (o :: more) = writings [o] ++ writings more :=
      List.filterMap_append (l := [o])
    rw [List.foldl_cons, hwritings]
    exact (l.grows_enter (h o List.mem_cons_self)).trans
      (ih (fun o ho => h o (List.mem_cons_of_mem _ ho)) _)

/-- What a callback does for an event adds its replies to what is accepted. -/
theorem accepted_acts {e : Event} : ∀ {l : Ledger} (acts : List (Action × Outcome)),
    l.handling = some e →
      ((performed acts).foldl .enter l).current.accepted = l.current.accepted ++ replies e acts
  | l, [], _ => (List.append_nil _).symm
  | l, (action, outcome) :: acts, handling => by
    have hrest := accepted_acts acts ((handling_acted l action outcome).trans handling)
    have hact : (l.note (.acted action outcome)).current.accepted =
        l.current.accepted ++ replies e [(action, outcome)] := by
      rw [note_acted handling]
      rcases henvelope : action.envelope? e with _ | envelope
      · simp [replies, henvelope]
      · cases outcome <;> simp [replies, henvelope, record]
    have hreplies : replies e ((action, outcome) :: acts) =
        replies e [(action, outcome)] ++ replies e acts :=
      List.filterMap_append (l := [_])
    rw [hreplies, ← List.append_assoc, ← hact]
    exact hrest

end Ledger

/-! ## Nothing is left to write -/

/-- An item is taken out of the inbox, or the callback is called for it. -/
def Occurrence.isIntake : Occurrence → Bool
  | consumed _ _ | logged (.event _ _) => true
  | logged _ | made _ _ | ended => false

/-- Whenever the service turned to an item, everything that was accepted before was written. -/
def IsPrompt (token : Option String) (told : List Occurrence) : Prop :=
  ∀ (earlier : List Occurrence) (o : Occurrence), earlier ++ [o] <+: told → o.isIntake = true →
    (ledger earlier).current.Complete token

namespace IsPrompt

variable {token : Option String} {told more : List Occurrence} {o : Occurrence}

theorem nil (token : Option String) : IsPrompt token [] :=
  fun _ _ he => absurd (List.prefix_nil.1 he) (by simp)

theorem snoc (h : IsPrompt token told)
    (ho : o.isIntake = true → (ledger told).current.Complete token) :
    IsPrompt token (told ++ [o]) := by
  intro earlier o' he hintake
  rcases snoc_isPrefix_snoc he with ⟨rfl, rfl⟩ | he
  · exact ho hintake
  · exact h _ _ he hintake

/-- Where the service does not turn to an item, nothing is to be said. -/
theorem append (h : IsPrompt token told) (hmore : ∀ o ∈ more, o.isIntake = false) :
    IsPrompt token (told ++ more) := by
  induction more generalizing told with
  | nil => rwa [List.append_nil]
  | cons o more ih =>
    rw [List.append_cons]
    refine ih (h.snoc fun ho => ?_) fun o ho => hmore o (List.mem_cons_of_mem _ ho)
    rw [hmore o List.mem_cons_self] at ho
    cases ho

end IsPrompt

namespace Client

variable {settings : Settings} {c c' : Client} {told : List Occurrence} {es : List Entry}
  {l : Ledger}

/-- An item is taken out of the inbox only when everything is written. -/
theorem Tracks.complete_of_intake? {item : Item} (h : Tracks settings c l)
    (hitem : c.intake? = some item) : l.current.Complete settings.token := by
  obtain ⟨s, hs, hitem⟩ := Option.bind_eq_some_iff.1 hitem
  split at hitem
  · next inbox hst =>
    split at hitem
    · cases hitem
    · split at hitem
      · next hr =>
        have howes := h.fits_serving hs hst
        rw [(Outbox.receive_eq_pending.1 hr).1] at howes
        exact howes.complete
      all_goals cases hitem
  all_goals cases hitem

/-! ## What happens is entered -/

theorem ledger_callOccurrences (told : List Occurrence) (c : Client) (step : Step) :
    ledger (told ++ c.callOccurrences step) =
      (c.apply step).2.2.foldl .note
        ((ledger told).recordAll step.offered (c.apply step).2.1.outcomes) := by
  have hentries := c.entries_callOccurrences step
  obtain ⟨words, hwords, hcall⟩ := c.callOccurrences_cases step
  have hsteps : ∀ o ∈ words ++
      ((c.attempt? step).map fun url => .logged (.connect url)).toList, o.isStep = false := by
    rcases hwords with rfl | rfl | rfl <;> cases c.attempt? step <;> simp [Occurrence.isStep]
  rw [hcall, List.filterMap_cons_none rfl] at hentries
  rw [ledger_append, hcall, List.foldl_cons, foldl_enter_of_not_isStep hsteps, hentries]
  rfl

theorem ledger_turnOccurrences (told : List Occurrence) (ht : c.turn = some (c', es)) :
    ledger (told ++ c.turnOccurrences) = es.foldl .note (ledger told) := by
  rw [ledger_append, foldl_enter_of_not_isStep (isStep_turnOccurrences ht),
    entries_turnOccurrences ht]

theorem ledger_occurrences (told : List Occurrence) (client : Option Client) (m : Move) :
    ledger (told ++ occurrences client m) = (ledger told).observe m.offered (move client m).2 := by
  rcases client with _ | c
  · have hnothing : (move none m).2 = ⟨.dropped, none, []⟩ := by cases m <;> rfl
    rw [occurrences, List.append_nil, hnothing, Ledger.observe]
    exact (Ledger.recordAll_nil_right _ _).symm
  · cases m with
    | step s =>
      show _ = (ledger told).observe s.offered (c.perform s).2
      rw [occurrences, ← List.append_assoc, ledger_append,
        foldl_enter_of_not_isStep (isStep_settleOccurrences _), entries_settleOccurrences,
        ledger_callOccurrences, Ledger.observe, (c.perform_eq s).1, (c.perform_eq s).2.1,
        List.foldl_append]
    | call s => exact ledger_callOccurrences told c s
    | turn =>
      show _ = (ledger told).observe [] c.takeTurn.2
      rw [occurrences, takeTurn]
      split
      · next ht => exact ledger_turnOccurrences told ht
      · next ht => rw [turnOccurrences_of_turn_eq_none ht, List.append_nil]; rfl

/-- The ledger of a chronicle is the one that is kept by somebody who sees only the calls, their
answers and the logs. -/
theorem ledger_chronicle (reader : Address.Reader) (settings : Settings) (moves : List Move) :
    ledger (chronicle reader settings moves).2 = (play reader settings moves).2 := by
  have hplay : (chronicle reader settings moves).1 = (play reader settings moves).1 ∧
      ledger (chronicle reader settings moves).2 = (play reader settings moves).2 := by
    induction moves using List.reverseRecOn with
    | nil => exact ⟨rfl, rfl⟩
    | append_singleton moves m ih =>
      obtain ⟨hclient, hledger⟩ := ih
      rw [chronicle_snoc, play, List.foldl_append]
      refine ⟨?_, ?_⟩
      · exact congrArg (fun client => (move client m).1) hclient
      · rw [recounted, ledger_occurrences, hclient, hledger]
        rfl
  exact hplay.2

/-! ## The service turns to an item -/

theorem isIntake_logged (h : ∀ name e, .event name e ∉ es) (c c' : Client) :
    ∀ o ∈ es.map .logged ++ c.parting c', o.isIntake = false := by
  refine forall_logged (·.isIntake = false) (fun entry hentry => ?_) rfl c c'
  cases entry with
  | event name e => exact absurd hentry (h name e)
  | _ => rfl

/-- A call does not turn to an item. -/
theorem isIntake_callOccurrences (c : Client) (step : Step) :
    ∀ o ∈ c.callOccurrences step, o.isIntake = false := by
  obtain ⟨words, hwords, hcall⟩ := c.callOccurrences_cases step
  rw [hcall]
  rcases hwords with rfl | rfl | rfl <;> cases c.attempt? step <;> simp [Occurrence.isIntake]

/-- A turn calls the callback for the item that it takes out of the inbox, before it logs anything
else, or not at all. -/
theorem event_of_turn (ht : c.turn = some (c', es)) :
    (∀ name e, .event name e ∉ es) ∨
      ∃ item name e acts, c.intake? = some item ∧ es = .event name e :: acts ∧
        ∀ name e, .event name e ∉ acts := by
  obtain ⟨s, hs, hturns⟩ := turns_of_turn ht
  cases hturns with
  | enters _ _ _ _ hg => cases hg <;> simp
  | greets _ _ hg => cases hg <;> simp
  | writesNext _ _ _ hw => cases hw <;> simp
  | writesPending _ _ hw => cases hw <;> simp
  | @consumes item inbox frame hst stop hq _ =>
    have hitem : c.intake? = some item := by simp [intake?, hs, hst, stop, hq]
    unfold deliver
    split
    · next e callback _ _ =>
      refine .inr ⟨item, callback.name, e, _, hitem, rfl, fun name e' hmem => ?_⟩
      obtain ⟨action, outcome, hacted⟩ := exists_acted e _ callback.actions _ hmem
      cases hacted
    · exact .inl fun _ _ => List.not_mem_nil
  | _ => simp

/-- The ledger is as the service left it, and everything was written whenever the service turned to
an item. -/
structure Prompt (settings : Settings) (c : Client) (told : List Occurrence) : Prop where
  tracks : Tracks settings c (ledger told)
  prompt : IsPrompt settings.token told

namespace Prompt

theorem new (reader : Address.Reader) (settings : Settings) :
    Prompt settings (.new reader settings) [] :=
  ⟨.new reader settings, .nil _⟩

theorem apply (h : Prompt settings c told) (step : Step) :
    Prompt settings (c.apply step).1 (told ++ c.callOccurrences step) := by
  refine ⟨?_, h.prompt.append (isIntake_callOccurrences c step)⟩
  rw [ledger_callOccurrences]
  exact h.tracks.apply step

theorem turn (h : Prompt settings c told) (ht : c.turn = some (c', es)) :
    Prompt settings c' (told ++ c.turnOccurrences) := by
  refine ⟨?_, ?_⟩
  · rw [ledger_turnOccurrences told ht]
    exact h.tracks.turn ht
  · rw [turnOccurrences_of_turn ht]
    rcases hintake : c.intake? with _ | item
    · rcases event_of_turn ht with hes | ⟨item, _, _, _, hitem, -, -⟩
      · exact h.prompt.append (isIntake_logged hes c c')
      · rw [hintake] at hitem
        cases hitem
    · have hcomplete := h.tracks.complete_of_intake? hintake
      have hconsumed : IsPrompt settings.token (told ++ [.consumed item c.callback]) :=
        h.prompt.snoc fun _ => hcomplete
      rw [← List.append_assoc]
      rcases event_of_turn ht with hes | ⟨_, name, e, acts, -, rfl, hacts⟩
      · exact hconsumed.append (isIntake_logged hes c c')
      · -- that the item was taken does not show in the ledger
        have hcalled : (ledger (told ++ [.consumed item c.callback])).current.Complete
            settings.token := by
          rw [ledger_append]
          exact hcomplete
        rw [List.map_cons, List.cons_append, List.append_cons]
        exact (hconsumed.snoc fun _ => hcalled).append (isIntake_logged hacts c c')

end Prompt

theorem isPrompt_chronicle (reader : Address.Reader) (settings : Settings)
    (moves : List Move) : IsPrompt settings.token (chronicle reader settings moves).2 := by
  obtain ⟨c, h, -⟩ := chronicle_invariant (Prompt settings) (fun step h => h.apply step)
    (fun h ht => h.turn ht) (.new reader settings) moves
  exact h.prompt

end Client

/-! ## Between two items -/

theorem begins_performed (acts : List (Action × Outcome)) :
    ∀ o ∈ performed acts, o.begins = false := by
  intro o ho
  obtain ⟨act, -, rfl⟩ := List.mem_map.1 ho
  rfl

theorem writings_performed (acts : List (Action × Outcome)) : writings (performed acts) = [] := by
  induction acts with
  | nil => rfl
  | cons act acts ih => exact ih

/-- From one account in which everything is written to a later one, exactly what is accepted in the
meantime is written in the meantime. -/
theorem Ledger.Grows.written_eq {token : Option String} {l l' : Ledger} {new : List Envelope}
    {written : List String} (h : Grows l l' written) (hl : l.current.Complete token)
    (hl' : l'.current.Complete token) (hnew : l'.current.accepted = l.current.accepted ++ new) :
    written = new.map (·.payload) := by
  have hwritten := h.written
  rw [hl, hl', hnew, List.map_append, ← List.cons_append] at hwritten
  exact (List.append_cancel_left hwritten).symm

/-- What a callback sends is written before the service turns to the next item on the same
connection, first of all and in the order in which it was sent. -/
theorem IsPrompt.replies_isPrefix {token : Option String} {told earlier after : List Occurrence}
    {name : String} {e : Event} {acts : List (Action × Outcome)} {o : Occurrence}
    (h : IsPrompt token told)
    (he : earlier ++ .logged (.event name e) :: (performed acts ++ after) ++ [o] <+: told)
    (hafter : ∀ o ∈ after, o.begins = false) (ho : o.isIntake = true) :
    (replies e acts).map (·.payload) <+: writings after := by
  have hcalled : (ledger earlier).current.Complete token := by
    refine h earlier (.logged (.event name e)) (List.IsPrefix.trans ?_ he) rfl
    rw [List.append_assoc, List.prefix_append_right_inj]
    exact ⟨_, rfl⟩
  have hnext := h _ _ he ho
  rw [ledger_append, List.foldl_cons, List.foldl_append] at hnext
  -- the event is entered first, then the acts of the callback, then all the rest
  set called := (ledger earlier).enter (.logged (.event name e))
  set acted := (performed acts).foldl .enter called
  have hacts : acted.current.accepted = called.current.accepted ++ replies e acts :=
    Ledger.accepted_acts acts rfl
  have hgrows : Ledger.Grows called acted [] := by
    rw [← writings_performed acts]
    exact Ledger.grows_foldl_enter (begins_performed acts) called
  have hlater := Ledger.grows_foldl_enter hafter acted
  obtain ⟨new, hnew⟩ := hlater.accepted
  rw [hacts, List.append_assoc] at hnew
  have hwritten := (hgrows.trans hlater).written_eq hcalled hnext hnew.symm
  rw [List.nil_append] at hwritten
  rw [hwritten, List.map_append]
  exact List.prefix_append _ _

namespace Client

/-- Whatever moves a client makes, the greeting and everything that the session accepted before are
written whenever the callback is called, and what the callback sends then is written before it is
called again on this connection, first of all and in the order in which it was sent. -/
theorem prompt_chronicle (reader : Address.Reader) (settings : Settings) (moves : List Move) :
    let told := (chronicle reader settings moves).2
    (∀ earlier name e, earlier ++ [.logged (.event name e)] <+: told →
      (ledger earlier).current.Complete settings.token) ∧
    ∀ earlier name e acts after name' e',
      earlier ++ .logged (.event name e) :: (performed acts ++ after) ++
          [.logged (.event name' e')] <+: told →
      (∀ o ∈ after, o.begins = false) →
        (replies e acts).map (·.payload) <+: writings after := by
  have h := isPrompt_chronicle reader settings moves
  refine ⟨?_, ?_⟩
  · intro earlier name e he
    exact h _ _ he rfl
  · intro earlier name e acts after name' e' he hafter
    exact h.replies_isPrefix he hafter rfl

/-- Two frames that wait together are handled one by one, each of them with its answer. -/
example :
    let frame := "\x7b\"type\":\"event\",\"event\":\"message\",\"data\":\x7b" ++
      "\"room\":\"r\",\"user\":\"u\",\"text\":\"t\"\x7d\x7d"
    let connected := (play .loopback ⟨"ws://[::1]", none, 0⟩
      [.call (.setCallback ⟨"f", [.echo]⟩), .call .connect, .turn]).1
    let moves : List Move :=
      [.call (.push (.text frame)), .call (.push (.text frame)), .turn, .turn, .turn, .turn]
    (moves.foldl recounted (connected, [])).2.filterMap (fun
      | .logged (.event _ _) => some "event"
      | .logged (.write _) => some "write"
      | _ => none) = ["event", "write", "event", "write"] := by
  decide +kernel

end Client

end ChatLink
