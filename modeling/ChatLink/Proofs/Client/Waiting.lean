import ChatLink.Proofs.Client.Stopping

/-!
# How long somebody waits for a service

Whoever takes a session down waits for the end of its service, and the service may be waiting for
its transport. Each turn of a service that was asked to stop brings it closer to its end
(`Client.IsStopping.remainder_turn`), and a transport that hangs is not waited for any longer than
the grace; so a service that was asked to stop is gone after as many turns as its stage says
(`Client.takeTurns_eq_settle`). No service ever has more of the grace left than all of it
(`Client.isPatient_chronicle`), which bounds that number for every client that made any moves.
-/

namespace ChatLink

/-- How many turns a service that stands here still takes at most once it was asked to stop. -/
def Stage.remainder : Stage → Nat
  | held | greeting _ | serving _ _ => Service.closeGrace + 3
  | leaving _ => Service.closeGrace + 2
  | parting _ grace => grace + 1
  | ended | panicked => 0

/-- A millisecond later less is left to wait for. -/
theorem Farewell.remainder_await (farewell : Farewell) (grace : Nat) :
    (farewell.await grace).remainder < grace + 1 := by
  cases farewell with
  | done | failed => exact Nat.succ_pos grace
  | hangs =>
    cases grace with
    | zero => exact Nat.one_pos
    | succ grace => exact Nat.lt_succ_self (grace + 1)

theorem Stage.remainder_receive {item : Item} {stage stage' : Stage}
    (h : stage.receive item = some stage') : stage'.remainder = stage.remainder := by
  rcases receive_cases h with ⟨_, rfl, rfl⟩ | ⟨_, _, rfl, rfl⟩ | ⟨_, rfl, rfl⟩ <;> rfl

namespace Client

variable {c c' : Client} {es : List Entry}

/-- The client after so many turns of its service. -/
def takeTurns (c : Client) : Nat → Client
  | 0 => c
  | n + 1 => c.takeTurn.1.takeTurns n

/-- How many turns the service still takes at most once it was asked to stop. -/
def remainder (c : Client) : Nat := (c.stage?.map Stage.remainder).getD 0

theorem takeTurn_of_turn (h : c.turn = some (c', es)) : c.takeTurn.1 = c' := by
  rw [takeTurn, h]

theorem takeTurn_of_turn_eq_none (h : c.turn = none) : c.takeTurn.1 = c := by
  rw [takeTurn, h]

theorem takeTurns_of_turn_eq_none (h : c.turn = none) : ∀ n, c.takeTurns n = c
  | 0 => rfl
  | n + 1 => by rw [takeTurns, takeTurn_of_turn_eq_none h, takeTurns_of_turn_eq_none h n]

/-- Each turn brings a service that was asked to stop closer to its end. -/
theorem IsStopping.remainder_turn (h : IsStopping c) (ht : c.turn = some (c', es)) :
    c'.remainder < c.remainder := by
  obtain ⟨s, hs, stop⟩ := h
  obtain ⟨s', hs', hturns⟩ := turns_of_turn ht
  obtain rfl := Option.some.inj (hs.symm.trans hs')
  have hremainder : c.remainder = s.stage.remainder := by rw [remainder, stage?, hs]; rfl
  rw [hremainder]
  cases hturns with
  | givesUp hst _ => rw [hst]; exact Nat.lt_succ_self _
  | quits hst _ =>
    cases hstage : s.stage with
    | greeting _ | serving _ _ => exact Nat.lt_succ_self _
    | held | leaving _ | parting _ _ | ended | panicked => rw [hstage] at hst; cases hst
  | closes hst | returns hst => rw [hst]; first | exact Nat.lt_succ_self _ | exact Nat.succ_pos _
  | @awaits farewell grace hst => rw [hst]; exact farewell.remainder_await grace
  | refused _ hfalse _ _ | greetingWaits _ hfalse _ _ _ | enters _ hfalse _ _ _ | greets _ hfalse _
  | writeWaits _ hfalse _ _ | writesNext _ hfalse _ _ | writesPending _ hfalse _
  | deserted _ hfalse _ | ends _ hfalse _ _ | consumes _ hfalse _ _ =>
    cases stop.symm.trans hfalse

/-- A service that was asked to stop has settled after as many turns as its stage says. -/
theorem takeTurns_eq_settle : ∀ {n : Nat} {c : Client}, IsStopping c → c.remainder ≤ n →
    c.takeTurns n = c.settle.1
  | 0, c, h, hn => by
    have ht : c.turn = none := by
      by_contra hturn
      obtain ⟨⟨c', es⟩, hturn⟩ := Option.ne_none_iff_exists'.1 hturn
      exact absurd (h.remainder_turn hturn) (by omega)
    rw [takeTurns, settle_of_turn_eq_none ht]
  | n + 1, c, h, hn => by
    rw [takeTurns]
    rcases ht : c.turn with _ | ⟨c', es⟩
    · rw [takeTurn_of_turn_eq_none ht, takeTurns_of_turn_eq_none ht, settle_of_turn_eq_none ht]
    · have hless := h.remainder_turn ht
      rw [takeTurn_of_turn ht, settle_of_turn ht]
      exact takeTurns_eq_settle (h.turn ht).2 (by omega)

/-! ## The grace is never exceeded -/

/-- No more is left to wait for than when the service was still in its loop. -/
def IsPatient (c : Client) : Prop := ∀ stage ∈ c.stage?, stage.remainder ≤ Service.closeGrace + 3

namespace IsPatient

theorem of_stage? {stage : Stage} (hst : c.stage? = some stage)
    (h : stage.remainder ≤ Service.closeGrace + 3) : IsPatient c := by
  intro stage' hst'
  obtain rfl := Option.some.inj (hst.symm.trans hst')
  exact h

theorem of_none (hs : c.session = none) : IsPatient c := by
  intro stage hst
  rw [stage?, hs] at hst
  cases hst

theorem congr (h : IsPatient c) (hst : c'.stage? = c.stage?) : IsPatient c' := by
  rwa [IsPatient, hst]

/-- A service that leaves its loop has all of the grace before it. -/
theorem leave (c : Client) (s : Session) (inbox : Option (List Item)) :
    IsPatient (c.leave s inbox) :=
  of_stage? rfl (Nat.le_succ _)

theorem apply (h : IsPatient c) (step : Step) : IsPatient (c.apply step).1 := by
  cases step with
  | connect =>
    rw [apply_connect]
    rcases c.connect_cases with ⟨endpoint, -, -, heq⟩ | ⟨error, -, heq⟩ | ⟨error, -, -, heq⟩
    · rw [heq]
      exact of_stage? rfl (Nat.le_refl _)
    · rw [heq]
      exact h
    · rw [heq]
      exact of_none c.session_reap
  | expire =>
    rw [apply_expire]
    rcases c.expire_cases with ⟨s, -, -, -, heq⟩ | heq
    · rw [heq]
      exact leave c s none
    · rw [heq]
      exact h
  | submit e => exact h.congr (c.stage?_submit e)
  | submitAll es => exact h.congr (c.stage?_submitAll es)
  | push item =>
    rw [apply_push]
    rcases c.push_cases item with ⟨s, stage, hs, hst, heq⟩ | ⟨-, heq⟩
    · rw [heq]
      have hpatient := h s.stage (stage?_of_session hs rfl)
      rw [← Stage.remainder_receive hst] at hpatient
      exact of_stage? rfl hpatient
    · rw [heq]
      exact h
  | close => rw [apply_close]; exact of_none c.session_close
  | drop => rw [apply_drop]; exact of_none c.session_close
  | release | configure _ | setCallback _ | clearCallback | observe | describe | settings => exact h

theorem greets {s : Session} {inbox : List Item} (hg : Greets c s inbox c' es) :
    IsPatient c' := by
  cases hg with
  | fails _ => exact leave _ _ _
  | arrives _ => exact of_stage? rfl (Nat.le_refl _)

theorem writes {s : Session} {inbox : List Item} {e : Envelope} (hw : Writes c s inbox e c' es) :
    IsPatient c' := by
  cases hw with
  | fails _ => exact leave _ _ _
  | arrives _ => exact of_stage? rfl (Nat.le_refl _)

theorem turn (h : IsPatient c) (ht : c.turn = some (c', es)) : IsPatient c' := by
  obtain ⟨s, hs, hturns⟩ := turns_of_turn ht
  cases hturns with
  | givesUp _ _ | quits _ _ | refused _ _ _ _ | deserted _ _ _ | ends _ _ _ _ => exact leave _ _ _
  | greetingWaits _ _ _ _ _ | writeWaits _ _ _ _ => exact of_stage? rfl (Nat.le_refl _)
  | enters _ _ _ _ hg | greets _ _ hg => exact greets hg
  | writesNext _ _ _ hw | writesPending _ _ hw => exact writes hw
  | @consumes item inbox frame _ _ _ _ =>
    rcases stage?_deliver (c.withSession { s with stage := .serving inbox none }) frame with
      hst | hst
    · exact of_stage? hst (Nat.le_refl _)
    · exact of_stage? hst (Nat.zero_le _)
  | closes _ => exact of_stage? rfl (Nat.le_add_right _ 2)
  | @awaits farewell grace hst =>
    have hgrace := h s.stage (stage?_of_session hs rfl)
    rw [hst] at hgrace
    exact of_stage? rfl (Nat.le_trans (Nat.le_of_lt (farewell.remainder_await grace)) hgrace)
  | returns _ => exact of_stage? rfl (Nat.zero_le _)

end IsPatient

theorem isPatient_chronicle (reader : Address.Reader) (settings : Settings) (moves : List Move) :
    ∃ c, IsPatient c ∧ ∀ c' ∈ (chronicle reader settings moves).1, c' = c :=
  chronicle_invariant (fun c _ => IsPatient c) (fun step h => h.apply step) (fun h ht => h.turn ht)
    (.of_none rfl) moves

/-- Whoever waits for a service has waited for it after no more turns than its loop and the grace
take, however its transport takes the closing. -/
theorem IsPatient.takeTurns_halt (h : IsPatient c) :
    c.halt.takeTurns (Service.closeGrace + 3) = c.halt.settle.1 := by
  rcases hs : c.session with _ | s
  · have hnone : c.halt.session = none := by rw [halt, hs, Option.map_none]
    have ht := turn_of_none hnone
    rw [takeTurns_of_turn_eq_none ht, settle_of_turn_eq_none ht]
  · have hhalt : c.halt.session =
        some { s with stopping := true, outbox := s.outbox.dropSender 0 } := by
      rw [halt, hs, Option.map_some]
    have hremainder : c.halt.remainder = s.stage.remainder := by
      rw [remainder, stage?, hhalt]
      rfl
    refine takeTurns_eq_settle ⟨_, hhalt, rfl⟩ ?_
    rw [hremainder]
    exact h s.stage (stage?_of_session hs rfl)

end Client

end ChatLink
