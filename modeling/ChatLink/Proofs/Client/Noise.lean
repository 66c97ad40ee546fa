import ChatLink.Proofs.Client.Recasting

/-!
# Frames that carry no event

A frame that carries no event is passed over when it is consumed, so whoever sees what a client
shows cannot tell whether the server sent it (`Client.run_kept`). `Client.quiet` is the client
without such frames in its inbox. Calls and turns of the two show the same and lead to clients that
are the same again, but for turns that pass a frame over, which only one of them takes.
-/

namespace ChatLink

/-- The server sends a frame that carries no event. -/
def Step.isNoise : Step → Bool
  | push item => item.isNoise
  | connect | expire | submit _ | submitAll _ | close | release | configure _ | setCallback _
  | clearCallback | observe | describe | settings | drop => false

namespace Client

/-- The client without noise in its inbox. -/
def quiet (c : Client) : Client := c.recast (!·.isNoise) 0

variable {c : Client}

theorem settle_quiet (c : Client) : c.quiet.settle = (c.settle.1.quiet, c.settle.2) :=
  settle_recast (fun item h => by simpa using h) c

/-- Noise that the server sends is gone without it, and answered as it is without any. -/
theorem push_of_isNoise {item : Item} (h : item.isNoise = true) (c : Client) :
    (c.push item).1.quiet = c.quiet ∧ (c.push item).2 = (c.quiet.push item).2 := by
  have hitem : ∀ inbox : List Item,
      (inbox ++ [item]).filter (!·.isNoise) = inbox.filter (!·.isNoise) := by
    intro inbox
    simp [h]
  rcases c with ⟨settings, reader, peer, state, callback, _ | ⟨thread, stage, outbox, stopping⟩,
    serviceThread, threads⟩
  · exact ⟨rfl, rfl⟩
  · rcases stage with _ | _ | _ | (_ | _) | _ | _ | _ <;>
      simp [push, quiet, recast, Session.recast, Stage.sift, Stage.receive, withSession, hitem]

/-! ## Scripts -/

theorem perform_quiet {step : Step} (h : step.isNoise = false) (c : Client) :
    c.quiet.perform step = ((c.perform step).1.map quiet, (c.perform step).2) := by
  refine perform_recast (fun item hitem => by simpa using hitem) (fun item hitem => ?_) c
  subst hitem
  exact congrArg (!·) h

/-- Noise that the server sends leaves the service to what it does without it. -/
theorem perform_push_of_isNoise {item : Item} (h : item.isNoise = true) (c : Client) :
    ((c.perform (.push item)).1.map quiet, (c.perform (.push item)).2) =
      (some c.quiet.settle.1, ⟨.pushed (c.quiet.push item).2, some c.quiet.settle.1.state,
        c.quiet.settle.2⟩) := by
  obtain ⟨hquiet, hwas⟩ := push_of_isNoise h c
  unfold perform
  rw [apply_push, ← hwas, ← hquiet, settle_quiet]
  rfl

/-- A step shows the same of two clients that are the same without noise, and leaves them so. -/
theorem perform_congr {c₁ c₂ : Client} (h : c₁.quiet = c₂.quiet) (step : Step) :
    ((c₁.perform step).1.map quiet, (c₁.perform step).2) =
      ((c₂.perform step).1.map quiet, (c₂.perform step).2) := by
  by_cases hnoise : step.isNoise = true
  · cases step with
    | push item => rw [perform_push_of_isNoise hnoise, perform_push_of_isNoise hnoise, h]
    | _ => cases hnoise
  · rw [Bool.not_eq_true] at hnoise
    rw [← perform_quiet hnoise, ← perform_quiet hnoise, h]

/-- Noise that the server sends to a settled client is not seen. -/
theorem perform_of_isNoise {step : Step} (h : step.isNoise = true) (ht : c.turn = none) :
    (c.perform step).1.map quiet = some c.quiet ∧ (c.perform step).2.log = [] := by
  cases step with
  | push item =>
    obtain ⟨hclient, hreport⟩ := Prod.mk.inj (perform_push_of_isNoise h c)
    rw [hclient, hreport, settle_quiet, settle_of_turn_eq_none ht]
    exact ⟨rfl, rfl⟩
  | _ => cases h

theorem advance_quiet {p₁ p₂ : Option Client} (h : p₁.map quiet = p₂.map quiet) (step : Step) :
    (advance p₁ step).1.map quiet = (advance p₂ step).1.map quiet ∧
      (advance p₁ step).2 = (advance p₂ step).2 := by
  rcases p₁ with _ | c₁ <;> rcases p₂ with _ | c₂
  · exact ⟨rfl, rfl⟩
  · cases h
  · cases h
  · exact Prod.mk.inj (perform_congr (Option.some.inj h) step)

theorem advance_of_isNoise {p : Option Client} {step : Step} (h : step.isNoise = true)
    (ht : ∀ c ∈ p, c.turn = none) :
    (advance p step).1.map quiet = p.map quiet ∧ (advance p step).2.log = [] := by
  rcases p with _ | c
  · exact ⟨rfl, rfl⟩
  · exact perform_of_isNoise h (ht c rfl)

end Client

/-- What is marked to be kept. -/
def kept {α : Type} (marked : List (α × Bool)) : List α := (marked.filter (·.2)).map (·.1)

namespace Client

/-- Two clients that are the same without noise show the same in a script and in what is left of it
when noise is taken out. -/
theorem run_kept_of_quiet : ∀ (script : List (Step × Bool)) {p₁ p₂ : Option Client},
    p₁.map quiet = p₂.map quiet → (∀ c ∈ p₁, c.turn = none) →
    (∀ marked ∈ script, marked.2 = false → marked.1.isNoise = true) →
    run p₂ (kept script) = kept ((run p₁ (script.map (·.1))).zip (script.map (·.2))) ∧
      ∀ marked ∈ (run p₁ (script.map (·.1))).zip (script.map (·.2)),
        marked.2 = false → marked.1.log = []
  | [], _, _, _, _, _ => ⟨rfl, fun _ h => absurd h List.not_mem_nil⟩
  | (step, keep) :: rest, p₁, p₂, h, ht, hnoise => by
    have hrest := fun marked hmem => hnoise marked (List.mem_cons_of_mem _ hmem)
    cases keep with
    | true =>
      obtain ⟨hquiet, hreport⟩ := advance_quiet h step
      obtain ⟨hrun, hlog⟩ := run_kept_of_quiet rest hquiet (turn_advance p₁ step) hrest
      refine ⟨?_, ?_⟩
      · show (advance p₂ step).2 :: run (advance p₂ step).1 (kept rest) = (advance p₁ step).2 :: _
        rw [hrun, hreport]
        rfl
      · intro marked hmem hdrop
        rcases List.mem_cons.1 hmem with rfl | hmem
        · cases hdrop
        · exact hlog marked hmem hdrop
    | false =>
      obtain ⟨hquiet, hempty⟩ := advance_of_isNoise (hnoise _ List.mem_cons_self rfl) ht
      obtain ⟨hrun, hlog⟩ :=
        run_kept_of_quiet rest (hquiet.trans h) (turn_advance p₁ step) hrest
      refine ⟨hrun, ?_⟩
      intro marked hmem hdrop
      rcases List.mem_cons.1 hmem with rfl | hmem
      · exact hempty
      · exact hlog marked hmem hdrop

/-- Whichever frames without an event are taken out of a script, the other steps show the same, and
the steps that are taken out log nothing. -/
theorem run_kept (reader : Address.Reader) (settings : Settings) {script : List (Step × Bool)}
    (h : ∀ marked ∈ script, marked.2 = false → marked.1.isNoise = true) :
    run (some (.new reader settings)) (kept script) =
        kept ((run (some (.new reader settings)) (script.map (·.1))).zip (script.map (·.2))) ∧
      ∀ marked ∈ (run (some (.new reader settings)) (script.map (·.1))).zip (script.map (·.2)),
        marked.2 = false → marked.1.log = [] := by
  refine run_kept_of_quiet script rfl (fun c hc => ?_) h
  obtain rfl := Option.some.inj hc
  rfl

/-- A brace that comes while the greeting waits, and is gone without a trace. -/
theorem run_kept_brace :
    let settings : Settings := ⟨"ws://[::1]", some "t", 100⟩
    let script : List (Step × Bool) :=
      [(.configure ⟨none, none, some true, none, none, none⟩, true), (.connect, true),
        (.push (.binary [0x7b]), false),
        (.configure ⟨none, none, some false, none, none, none⟩, true)]
    (∀ marked ∈ script, marked.2 = false → marked.1.isNoise = true) ∧
      run (some (.new .loopback settings)) (kept script) =
          kept ((run (some (.new .loopback settings)) (script.map (·.1))).zip (script.map (·.2))) ∧
        ∀ marked ∈ (run (some (.new .loopback settings)) (script.map (·.1))).zip (script.map (·.2)),
          marked.2 = false → marked.1.log = [] := by
  intro settings script
  have hnoise : ∀ marked ∈ script, marked.2 = false → marked.1.isNoise = true := by
    decide +kernel
  exact ⟨hnoise, run_kept .loopback settings hnoise⟩

end Client

end ChatLink
