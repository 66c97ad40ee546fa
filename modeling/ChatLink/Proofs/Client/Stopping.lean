import ChatLink.Proofs.Client.Answers
import ChatLink.Proofs.Client.Succession

/-!
# Services that were asked to stop

A callback that closes the client asks its service to stop, and the service notices in its next
turn. Calls can be made in between, and between the turns in which the service ends. What the
service still has to say at any moment are the client's last words (`Client.lastWords`) : a call
tells some of them, or none, and leaves the rest (`Client.lastWords_apply`), and so does every turn
that follows the request (`Client.IsStopping.turn`).
-/

namespace ChatLink.Client

variable {c c' : Client} {es : List Entry}

/-! ## The request is remembered -/

/-- The service was asked to stop. -/
def IsStopping (c : Client) : Prop := ∃ s, c.session = some s ∧ s.stopping = true

namespace IsStopping

theorem leave {s : Session} (h : IsStopping c) (hs : c.session = some s)
    (inbox : Option (List Item)) : IsStopping (c.leave s inbox) := by
  obtain ⟨s', hs', stop⟩ := h
  obtain rfl := Option.some.inj (hs.symm.trans hs')
  exact ⟨_, rfl, stop⟩

theorem submit (h : IsStopping c) (e : Envelope) : IsStopping (c.submit e).1 := by
  obtain ⟨s, hs, stop⟩ := h
  rcases c.submit_cases e with ⟨s', hs', -, -, heq⟩ | ⟨-, heq⟩
  · obtain rfl := Option.some.inj (hs.symm.trans hs')
    rw [heq]
    exact ⟨_, rfl, stop⟩
  · rw [heq]
    exact ⟨s, hs, stop⟩

theorem submitAll : ∀ {c : Client}, IsStopping c → ∀ es : List Envelope,
    IsStopping (c.submitAll es).1
  | _, h, [] => h
  | _, h, e :: es => submitAll (h.submit e) es

theorem push (h : IsStopping c) (item : Item) : IsStopping (c.push item).1 := by
  obtain ⟨s, hs, stop⟩ := h
  rcases c.push_cases item with ⟨s', stage, hs', -, heq⟩ | ⟨-, heq⟩
  · obtain rfl := Option.some.inj (hs.symm.trans hs')
    rw [heq]
    exact ⟨_, rfl, stop⟩
  · rw [heq]
    exact ⟨s, hs, stop⟩

theorem requestStop {s : Session} (hs : c.session = some s) : IsStopping c.requestStop :=
  ⟨{ s with stopping := true }, congrArg (Option.map _) hs, rfl⟩

theorem act (h : IsStopping c) (e : Event) {action : Action} (ha : action ≠ .panic) :
    IsStopping (c.act e action).1 := by
  cases action with
  | join room => exact h.submit _
  | leave room => exact h.submit _
  | send room text => exact h.submit _
  | echo => exact h.submit _
  | close =>
    rw [Client.act]
    split
    · exact requestStop h.choose_spec.1
    · exact h
  | connect =>
    rw [Client.act]
    split <;> exact h
  | panic => exact absurd rfl ha
  | state | clearCallback | setCallback _ _ => exact h

/-- A callback that closes the client, or is called when it is closed already, and comes to its end
leaves a service that was asked to stop. -/
theorem actAll (e : Event) : ∀ {c : Client} {actions : List Action}, Serves c →
    .panic ∉ actions → (IsStopping c ∨ .close ∈ actions) → IsStopping (c.actAll e actions).1
  | _, [], _, _, h => h.resolve_right List.not_mem_nil
  | c, action :: rest, hserves, hpanic, h => by
    have hne : action ≠ .panic := fun heq => hpanic (heq ▸ List.mem_cons_self)
    have hrest : .panic ∉ rest := fun hmem => hpanic (List.mem_cons_of_mem _ hmem)
    have hnext : IsStopping (c.act e action).1 ∨ .close ∈ rest := by
      rcases h with h | hmem
      · exact .inl (h.act e hne)
      · rcases List.mem_cons.1 hmem with rfl | hmem
        · obtain ⟨s, hs, -⟩ := hserves.session
          rw [Client.act, if_pos hserves.onServiceThread]
          exact .inl (requestStop hs)
        · exact .inr hmem
    unfold Client.actAll
    split
    · next hn => cases hn
    · next hp => exact absurd (List.cons.inj hp).1 hne
    · next hc =>
      obtain ⟨rfl, rfl⟩ := List.cons.inj hc
      exact actAll e ((hserves.act e action).2 hne) hrest hnext

/-- A turn after the request tells some of the last words, and leaves the rest. -/
theorem turn (h : IsStopping c) (ht : c.turn = some (c', es)) :
    c.turnOccurrences ++ c'.lastWords = c.lastWords ∧ IsStopping c' := by
  obtain ⟨s, hs, stop⟩ := h
  obtain ⟨s₁, hs₁, hturns⟩ := turns_of_turn ht
  obtain rfl := Option.some.inj (hs.symm.trans hs₁)
  obtain ⟨s', hs', stop'⟩ := stopping_of_turns hturns stop
  refine ⟨?_, s', hs', stop'⟩
  rw [← settleOccurrences_of_stopping hs stop, ← settleOccurrences_of_stopping hs' stop',
    settleOccurrences_of_turn ht]

/-- The service ends, its transport is closed if it has one, and the client is closed. -/
theorem settle {settings : Settings} {s : Session} (h : IsStopping c) (hc : Coherent settings c)
    (hs : c.session = some s) (hrunning : c.isServed = true) :
    c.settle = ({ c with state := .closed, session := some { s with stage := .ended } },
      c.partingEntries) := by
  obtain ⟨s', hs', stop⟩ := h
  obtain rfl := Option.some.inj (hs.symm.trans hs')
  rw [isServed_of_stage? (stage?_of_session hs rfl)] at hrunning
  have hstate := hc.state_of_session hs
  rw [settle_of_stopping hs stop, partingEntries_of_session hs, hstate]
  cases hst : s.stage <;> rw [hst] at hrunning <;> first | rfl | cases hrunning

end IsStopping

/-! ## The last words are told in parts -/

/-- What a service still has to say is told by its phase. -/
theorem lastWords_eq_phase (c : Client) :
    c.lastWords = (if c.phase.isOpen then [.logged .close] else []) ++
      if c.phase.isRunning then [.ended] else [] := by
  rw [lastWords, partingEntries, ← isOpen_phase, ← isServed_eq]
  cases c.phase.isOpen <;> rfl

/-- They are the service's own, and no steps. -/
theorem course_of_lastWords (c : Client) : course c.lastWords = c.lastWords := by
  rcases c.lastWords_cases with h | h | h <;> rw [h] <;> rfl

theorem course_turnOccurrences (ht : c.turn = some (c', es)) :
    course c.turnOccurrences = c.turnOccurrences := by
  refine List.filter_eq_self.2 fun o ho => ?_
  rw [isStep_turnOccurrences ht o ho]
  rfl

/-- A service that is gone has nothing more to say. -/
theorem lastWords_of_not_isServed (h : c.isServed = false) : c.lastWords = [] := by
  rcases hs : c.session with _ | s
  · exact lastWords_of_none hs
  · rw [isServed_of_stage? (stage?_of_session hs rfl)] at h
    rw [lastWords_of_session hs]
    cases hst : s.stage <;> rw [hst] at h <;> first | rfl | cases h

/-- The last word is that the service is gone. -/
theorem ended_mem_lastWords : .ended ∈ c.lastWords ↔ c.isServed = true := by
  rw [lastWords, List.mem_append]
  cases c.isServed <;> simp

/-- What a call tells of the last words, and what it leaves of them. -/
structure Utters (c : Client) (step : Step) (told : List Occurrence) : Prop where
  call : c.callOccurrences step = .made step (c.apply step).2.1 :: told
  rest : told ++ (c.apply step).1.lastWords = c.lastWords
  /-- All of it is the service's own. -/
  course_eq : course told = told
  /-- Where there is a service after the call, it was not waited for, and nothing is forgotten. -/
  stopping (hserved : (c.apply step).1.isServed = true) (h : IsStopping c) :
    IsStopping (c.apply step).1

namespace Utters

variable {step : Step} {told : List Occurrence}

/-- A call that leaves the client in its phase tells nothing. -/
theorem of_phase_eq (hmade : c.callOccurrences step = [.made step (c.apply step).2.1])
    (hphase : (c.apply step).1.phase = c.phase)
    (hstopping : IsStopping c → IsStopping (c.apply step).1) : Utters c step [] := by
  refine ⟨hmade, ?_, rfl, fun _ => hstopping⟩
  rw [List.nil_append, lastWords_eq_phase, lastWords_eq_phase, hphase]

/-- A call that leaves no session tells everything. -/
theorem of_none
    (hcall : c.callOccurrences step = .made step (c.apply step).2.1 :: c.lastWords)
    (hs : (c.apply step).1.session = none) : Utters c step c.lastWords := by
  refine ⟨hcall, by rw [lastWords_of_none hs, List.append_nil], c.course_of_lastWords,
    fun hserved => ?_⟩
  rw [isServed_of_none (congrArg (Option.map _) hs)] at hserved
  cases hserved

/-- A call begins no service. -/
theorem isServed (h : Utters c step told) (hserved : (c.apply step).1.isServed = true) :
    c.isServed = true := by
  rw [← ended_mem_lastWords, ← h.rest]
  exact List.mem_append_right _ (ended_mem_lastWords.2 hserved)

end Utters

/-- Every call that begins no attempt tells some of the last words of the service, and leaves the
rest. -/
theorem lastWords_apply {step : Step} (hattempt : c.attempt? step = none) :
    ∃ told, Utters c step told := by
  cases step with
  | connect =>
    obtain ⟨error, ⟨heq, hcall⟩ | ⟨-, heq, hcall⟩⟩ := connect_of_attempt?_eq_none hattempt
    · refine ⟨[], .of_phase_eq ?_ ?_ ?_⟩ <;> rw [apply_connect, heq]
      · exact hcall
      · exact id
    · refine ⟨_, .of_none ?_ ?_⟩ <;> rw [apply_connect, heq]
      · exact hcall
      · exact c.session_reap
  | expire =>
    have hmade : c.callOccurrences .expire = [.made .expire (c.apply .expire).2.1] :=
      callOccurrences_eq_made rfl rfl
    rcases c.expire_cases with ⟨s, hs, hst, -, heq⟩ | heq
    · refine ⟨[], hmade, ?_, rfl, ?_⟩ <;> rw [apply_expire, heq]
      · rw [lastWords_of_session hs, hst]
        rfl
      · exact fun _ h => h.leave hs none
    · exact ⟨[], .of_phase_eq hmade (by rw [apply_expire, heq])
        (by rw [apply_expire, heq]; exact id)⟩
  | submit e =>
    exact ⟨[], .of_phase_eq (callOccurrences_eq_made rfl rfl)
      (phase_congr (c.stage?_submit e) (c.state_submit e)) fun h => h.submit e⟩
  | submitAll es =>
    exact ⟨[], .of_phase_eq (callOccurrences_eq_made rfl rfl)
      (phase_congr (c.stage?_submitAll es) (c.state_submitAll es)) fun h => h.submitAll es⟩
  | push item =>
    exact ⟨[], .of_phase_eq (callOccurrences_eq_made rfl rfl) (c.phase_push item)
      fun h => h.push item⟩
  | close | drop =>
    refine ⟨_, .of_none (callOccurrences_of_closes rfl) ?_⟩
    rw [apply_of_closes rfl]
    exact c.session_close
  | release | configure _ | setCallback _ | clearCallback | observe | describe | settings =>
    exact ⟨[], .of_phase_eq (callOccurrences_eq_made rfl rfl) rfl id⟩

end ChatLink.Client
