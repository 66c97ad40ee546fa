import ChatLink.Outbox
import Mathlib.Data.List.Induction

/-!
# The books of an outbox

Somebody who sees the steps of the holders of an outbox and their answers, and nothing of its
queue, keeps `Books` : which envelopes were accepted, and what became of them. The books know by
counting which envelopes are still queued (`Books.waiting`), and so they foretell every answer
(`Books.answer`). `Outbox.foretold_kept` says that the answers are always the foretold ones, and
that every envelope that was accepted is in one place (`Balanced`) : it was handed out or discarded,
in the order of acceptance, or it is queued behind all of those, or was when the receiver was given
up.
-/

namespace ChatLink.Outbox

/-- What becomes of an envelope that leaves the queue. -/
inductive Fate where
  | handedOut
  | discarded
  deriving DecidableEq, Repr

/-- What the steps and their answers tell. -/
structure Books where
  /-- The envelopes that were accepted, oldest first. -/
  accepted : List Envelope
  /-- The envelopes that left the queue, in this order, and what became of them. -/
  gone : List (Envelope × Fate)
  /-- The envelopes that were still queued when the receiver was given up. -/
  abandoned : List Envelope
  /-- The senders that are held. -/
  holders : List Nat
  /-- How many senders were ever made. -/
  made : Nat
  /-- The receiver is held. -/
  receiving : Bool
  deriving DecidableEq, Repr

namespace Books

/-- The books before the first step. -/
def initial : Books := ⟨[], [], [], [0], 1, true⟩

/-- The envelopes that were accepted and are not accounted for. -/
def waiting (b : Books) : List Envelope := b.accepted.drop (b.gone.length + b.abandoned.length)

/-- An envelope is handed out. -/
def handOut (b : Books) (e : Envelope) : Books := { b with gone := b.gone ++ [(e, .handedOut)] }

/-- A step and its answer are put down. -/
def note (b : Books) : Step → Reply → Books
  | .enqueue _ e, .accepted => { b with accepted := b.accepted ++ [e] }
  | .addSender _, .sender i => { b with holders := i :: b.holders, made := b.made + 1 }
  | .dropSender i, .dropped _ => { b with holders := b.holders.filter (· ≠ i) }
  | .dropReceiver, .dropped _ =>
    { b with abandoned := b.abandoned ++ b.waiting, receiving := false }
  | .dequeue, .dequeued (some e) => b.handOut e
  | .receive, .received (.item e) => b.handOut e
  | .drain, .drained n => { b with gone := b.gone ++ (b.waiting.take n).map (·, .discarded) }
  | _, _ => b

/-- The answer that the books foretell. -/
def answer (b : Books) : Step → Reply
  | .enqueue i _ =>
    if i ∈ b.holders then if b.receiving then .accepted else .refused .notConnected else .noSender
  | .addSender i => if i ∈ b.holders then .sender b.made else .noSender
  | .dropSender i => .dropped (i ∈ b.holders)
  | .dropReceiver => .dropped b.receiving
  | .dequeue => if b.receiving then .dequeued b.waiting.head? else .noReceiver
  | .receive =>
    if b.receiving then
      match b.waiting with
      | e :: _ => .received (.item e)
      | [] => .received (if b.holders = [] then .ended else .pending)
    else .noReceiver
  | .drain => if b.receiving then .drained b.waiting.length else .noReceiver

end Books

/-- The holders make a step, and the books are kept. -/
def noted (p : Outbox × Books) (step : Step) : Outbox × Books :=
  ((p.1.perform step).1, p.2.note step (p.1.perform step).2)

/-- The outbox after some steps, and the books of them. -/
def kept (steps : List Step) : Outbox × Books := steps.foldl noted (.initial, .initial)

/-- The books are right about the outbox. -/
structure Balanced (o : Outbox) (b : Books) : Prop where
  /-- Every envelope that was accepted is in one place, and in the order of acceptance. -/
  accepted_eq : b.accepted = b.gone.map Prod.fst ++ (b.abandoned ++ o.queue)
  receiving_eq : b.receiving = o.hasReceiver
  /-- Nothing is lost while there is a receiver, -/
  abandoned_eq : o.hasReceiver = true → b.abandoned = []
  /-- and nothing is queued without one. -/
  queue_eq : o.hasReceiver = false → o.queue = []
  holders_iff (i : Nat) : i ∈ b.holders ↔ o.hasSender i = true
  made_eq : b.made = o.senders.length

variable {o : Outbox} {b : Books}

/-! ## The operations -/

theorem dequeue_of_nil (h : o.queue = []) : o.dequeue = (none, o) := by
  rw [dequeue, h]

theorem dequeue_of_cons {e : Envelope} {queue : List Envelope} (h : o.queue = e :: queue) :
    o.dequeue = (some e, { o with queue := queue }) := by
  rw [dequeue, h]

theorem receive_of_nil (h : o.queue = []) :
    o.receive = (if o.hasSenders then .pending else .ended, o) := by
  rw [receive, dequeue_of_nil h]

theorem receive_of_cons {e : Envelope} {queue : List Envelope} (h : o.queue = e :: queue) :
    o.receive = (.item e, { o with queue := queue }) := by
  rw [receive, dequeue_of_cons h]

theorem hasSender_addSender (o : Outbox) (i : Nat) :
    o.addSender.1.hasSender i = true ↔ i = o.senders.length ∨ o.hasSender i = true := by
  rcases Nat.lt_trichotomy i o.senders.length with h | rfl | h
  · simp [addSender, hasSender, List.getElem?_append_left h, Nat.ne_of_lt h]
  · simp [addSender, hasSender]
  · have hold : o.senders[i]? = none := List.getElem?_eq_none (Nat.le_of_lt h)
    have hnew : (o.senders ++ [true])[i]? = none :=
      List.getElem?_eq_none (by rw [List.length_append]; exact h)
    simp [addSender, hasSender, hold, hnew, Nat.ne_of_gt h]

theorem hasSender_dropSender (o : Outbox) (i j : Nat) :
    (o.dropSender i).hasSender j = true ↔ o.hasSender j = true ∧ j ≠ i := by
  rcases eq_or_ne j i with rfl | h
  · rcases Nat.lt_or_ge j o.senders.length with hj | hj <;> simp [dropSender, hasSender, hj]
  · simp [dropSender, hasSender, List.getElem?_set_ne h.symm, h]

theorem hasSenders_iff (o : Outbox) : o.hasSenders = true ↔ ∃ i, o.hasSender i = true := by
  simp only [hasSenders, List.any_eq_true, id, hasSender]
  constructor
  · rintro ⟨held, hmem, rfl⟩
    obtain ⟨i, hi, heq⟩ := List.mem_iff_getElem.1 hmem
    exact ⟨i, by simp [List.getElem?_eq_getElem hi, heq]⟩
  · rintro ⟨i, hi⟩
    cases hget : o.senders[i]? with
    | none => simp [hget] at hi
    | some held =>
      rw [hget] at hi
      exact ⟨held, List.mem_of_getElem? hget, hi⟩

namespace Balanced

theorem initial : Balanced .initial .initial := by
  refine ⟨rfl, rfl, fun _ => rfl, fun _ => rfl, fun i => ?_, rfl⟩
  cases i <;> simp [Books.initial, Outbox.initial, hasSender]

/-- What the books do not account for is what is queued. -/
theorem waiting_eq (h : Balanced o b) : b.waiting = o.queue := by
  rw [Books.waiting, h.accepted_eq, ← List.append_assoc]
  exact List.drop_left' (by simp)

theorem holders_eq_nil_iff (h : Balanced o b) : b.holders = [] ↔ o.hasSenders = false := by
  rw [← Bool.not_eq_true, hasSenders_iff, List.eq_nil_iff_forall_not_mem, not_exists]
  exact forall_congr' fun i => not_congr (h.holders_iff i)

/-- The books foretell every answer. -/
theorem answer_eq (h : Balanced o b) (step : Step) : (o.perform step).2 = b.answer step := by
  cases step with
  | enqueue i e =>
    simp only [perform, Books.answer, h.holders_iff, h.receiving_eq, enqueue]
    split
    · cases o.hasReceiver <;> rfl
    · rfl
  | addSender i =>
    simp only [perform, Books.answer, h.holders_iff, h.made_eq]
    split <;> rfl
  | dropSender i => simp [perform, Books.answer, h.holders_iff]
  | dropReceiver => simp [perform, Books.answer, h.receiving_eq]
  | dequeue =>
    simp only [perform, Books.answer, h.waiting_eq, h.receiving_eq]
    split
    · rcases hq : o.queue with _ | ⟨e, queue⟩
      · rw [dequeue_of_nil hq]
        rfl
      · rw [dequeue_of_cons hq]
        rfl
    · rfl
  | receive =>
    simp only [perform, Books.answer, h.waiting_eq, h.receiving_eq, h.holders_eq_nil_iff]
    split
    · rcases hq : o.queue with _ | ⟨e, queue⟩
      · rw [receive_of_nil hq]
        cases o.hasSenders <;> rfl
      · rw [receive_of_cons hq]
    · rfl
  | drain =>
    simp only [perform, Books.answer, h.waiting_eq, h.receiving_eq, drain_eq]
    split <;> rfl

/-! ## One step -/

theorem enqueue (h : Balanced o b) (hr : o.hasReceiver = true) (e : Envelope) :
    Balanced { o with queue := o.queue ++ [e] } { b with accepted := b.accepted ++ [e] } := by
  refine ⟨?_, h.receiving_eq, h.abandoned_eq, fun hr' => ?_, h.holders_iff, h.made_eq⟩
  · show b.accepted ++ [e] = b.gone.map Prod.fst ++ (b.abandoned ++ (o.queue ++ [e]))
    rw [h.accepted_eq, List.append_assoc, List.append_assoc]
  · exact absurd (hr.symm.trans hr') (by decide)

/-- The oldest envelope is handed out. -/
theorem handOut (h : Balanced o b) (hr : o.hasReceiver = true) {e : Envelope}
    {queue : List Envelope} (hq : o.queue = e :: queue) :
    Balanced { o with queue := queue } (b.handOut e) := by
  refine ⟨?_, h.receiving_eq, h.abandoned_eq, fun hr' => ?_, h.holders_iff, h.made_eq⟩
  · show b.accepted = (b.gone ++ [(e, Fate.handedOut)]).map Prod.fst ++ (b.abandoned ++ queue)
    rw [h.accepted_eq, h.abandoned_eq hr, hq, List.map_append, List.append_assoc]
    rfl
  · exact absurd (hr.symm.trans hr') (by decide)

/-- Everything that is queued is discarded. -/
theorem drain (h : Balanced o b) (hr : o.hasReceiver = true) :
    Balanced { o with queue := [] }
      { b with gone := b.gone ++ (b.waiting.take o.queue.length).map (·, .discarded) } := by
  refine ⟨?_, h.receiving_eq, h.abandoned_eq, fun _ => rfl, h.holders_iff, h.made_eq⟩
  show b.accepted =
    (b.gone ++ (b.waiting.take o.queue.length).map (·, Fate.discarded)).map Prod.fst ++
      (b.abandoned ++ [])
  rw [h.accepted_eq, h.abandoned_eq hr, h.waiting_eq, List.take_length, List.map_append,
    List.map_map, List.append_nil, List.append_nil, List.nil_append]
  exact congrArg _ (List.map_id _).symm

/-- What is queued is abandoned with the receiver. -/
theorem dropReceiver (h : Balanced o b) :
    Balanced o.dropReceiver
      { b with abandoned := b.abandoned ++ b.waiting, receiving := false } := by
  refine ⟨?_, rfl, fun hr => ?_, fun _ => rfl, h.holders_iff, h.made_eq⟩
  · show b.accepted = b.gone.map Prod.fst ++ ((b.abandoned ++ b.waiting) ++ [])
    rw [h.waiting_eq, List.append_nil]
    exact h.accepted_eq
  · cases hr

theorem addSender (h : Balanced o b) :
    Balanced o.addSender.1
      { b with holders := o.senders.length :: b.holders, made := b.made + 1 } := by
  refine ⟨h.accepted_eq, h.receiving_eq, h.abandoned_eq, h.queue_eq, fun i => ?_, ?_⟩
  · rw [hasSender_addSender, List.mem_cons, h.holders_iff]
  · show b.made + 1 = (o.senders ++ [true]).length
    rw [h.made_eq, List.length_append]
    rfl

theorem perform_addSender (h : Balanced o b) (i : Nat) :
    Balanced (o.perform (.addSender i)).1
      (b.note (.addSender i) (o.perform (.addSender i)).2) := by
  by_cases hi : o.hasSender i = true
  · simp only [Outbox.perform, if_pos hi]
    exact h.addSender
  · simp only [Outbox.perform, if_neg hi]
    exact h

theorem dropSender (h : Balanced o b) (i : Nat) :
    Balanced (o.dropSender i) { b with holders := b.holders.filter (· ≠ i) } := by
  refine ⟨h.accepted_eq, h.receiving_eq, h.abandoned_eq, h.queue_eq, fun j => ?_, ?_⟩
  · rw [hasSender_dropSender, ← h.holders_iff]
    simp
  · show b.made = (o.senders.set i false).length
    rw [List.length_set]
    exact h.made_eq

/-- A step keeps the books right. -/
theorem perform (h : Balanced o b) (step : Step) :
    Balanced (o.perform step).1 (b.note step (o.perform step).2) := by
  by_cases hr : o.hasReceiver = true
  · cases step with
    | enqueue i e =>
      by_cases hi : o.hasSender i = true
      · simp only [Outbox.perform, Outbox.enqueue, if_pos hi, if_pos hr]
        exact h.enqueue hr e
      · simp only [Outbox.perform, if_neg hi]
        exact h
    | addSender i => exact h.perform_addSender i
    | dropSender i => exact h.dropSender i
    | dropReceiver => exact h.dropReceiver
    | dequeue =>
      simp only [Outbox.perform, if_pos hr]
      rcases hq : o.queue with _ | ⟨e, queue⟩
      · rw [dequeue_of_nil hq]
        exact h
      · rw [dequeue_of_cons hq]
        exact h.handOut hr hq
    | receive =>
      simp only [Outbox.perform, if_pos hr]
      rcases hq : o.queue with _ | ⟨e, queue⟩
      · rw [receive_of_nil hq]
        cases o.hasSenders <;> exact h
      · rw [receive_of_cons hq]
        exact h.handOut hr hq
    | drain =>
      simp only [Outbox.perform, if_pos hr, drain_eq]
      exact h.drain hr
  · -- without a receiver nothing but the senders can change
    cases step with
    | enqueue i e =>
      by_cases hi : o.hasSender i = true
      · simp only [Outbox.perform, Outbox.enqueue, if_pos hi, if_neg hr]
        exact h
      · simp only [Outbox.perform, if_neg hi]
        exact h
    | addSender i => exact h.perform_addSender i
    | dropSender i => exact h.dropSender i
    | dropReceiver => exact h.dropReceiver
    | dequeue | receive | drain =>
      simp only [Outbox.perform, if_neg hr]
      exact h

end Balanced

/-! ## Runs -/

theorem kept_snoc (steps : List Step) (step : Step) :
    kept (steps ++ [step]) = noted (kept steps) step :=
  List.foldl_append

/-- The books are right after any steps. -/
theorem balanced_kept (steps : List Step) : Balanced (kept steps).1 (kept steps).2 := by
  induction steps using List.reverseRecOn with
  | nil => exact .initial
  | append_singleton steps step ih =>
    rw [kept_snoc]
    exact ih.perform step

theorem hasReceiver_perform (o : Outbox) (step : Step) :
    (o.perform step).1.hasReceiver = true ↔ o.hasReceiver = true ∧ .dropReceiver ≠ step := by
  cases step with
  | enqueue i e =>
    by_cases hi : o.hasSender i = true <;> by_cases hr : o.hasReceiver = true <;>
      simp [perform, Outbox.enqueue, hi, hr]
  | addSender i => by_cases hi : o.hasSender i = true <;> simp [perform, addSender, hi]
  | dropSender i => simp [perform, dropSender]
  | dropReceiver => simp [perform, dropReceiver]
  | dequeue =>
    rcases hq : o.queue with _ | ⟨e, queue⟩ <;> by_cases hr : o.hasReceiver = true <;>
      simp [perform, dequeue, hq, hr]
  | receive =>
    rcases hq : o.queue with _ | ⟨e, queue⟩ <;> by_cases hr : o.hasReceiver = true <;>
      simp [perform, receive, dequeue, hq, hr]
  | drain => by_cases hr : o.hasReceiver = true <;> simp [perform, drain_eq, hr]

/-- The receiver is held until it is given up. -/
theorem hasReceiver_kept (steps : List Step) :
    (kept steps).1.hasReceiver = true ↔ .dropReceiver ∉ steps := by
  induction steps using List.reverseRecOn with
  | nil => simp [kept, Outbox.initial]
  | append_singleton steps step ih =>
    rw [kept_snoc, noted, hasReceiver_perform, ih, List.mem_append, List.mem_singleton, not_or]

/-- Whatever the holders do, and in whatever order they do it, the books are right and foretell
every answer. After a drain nothing is queued. -/
theorem foretold_kept (steps : List Step) :
    let o := (kept steps).1
    let b := (kept steps).2
    (o.hasReceiver = true ↔ .dropReceiver ∉ steps) ∧
    Balanced o b ∧
    b.waiting = o.queue ∧
    (∀ step, (o.perform step).2 = b.answer step) ∧
    (o.hasReceiver = true → (o.perform .drain).1.queue = []) := by
  have hb := balanced_kept steps
  refine ⟨hasReceiver_kept steps, hb, hb.waiting_eq, hb.answer_eq, fun hr => ?_⟩
  rw [perform, if_pos hr, drain_eq]

/-- The last sender is given up, but what it sent is received. -/
example :
    let b := (kept [.enqueue 0 (.join "a"), .addSender 0, .enqueue 1 (.join "b"), .drain,
      .enqueue 1 (.join "c"), .dropSender 0, .dropSender 1, .receive]).2
    b.gone.map Prod.snd = [.discarded, .discarded, .handedOut] ∧
      b.answer .receive = .received .ended := by
  decide +kernel

end ChatLink.Outbox
