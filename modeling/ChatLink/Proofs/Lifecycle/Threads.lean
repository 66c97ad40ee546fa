import ChatLink.Lifecycle
import Mathlib.Data.List.Induction

/-!
# Two threads and one state

The state of a client is shared by the caller, who connects and closes, and by the thread of the
service. Both load, store and exchange it one operation at a time, and between two operations of one
thread the other may do any number of its own : `Operates` lists all operations, and a `Run` is an
interleaving of them.

An advance is not one operation (`Advances`). It loads the state, and as long as what it saw is
earlier than its target it tries to exchange that for the target. The exchange fails if the state
has changed meanwhile, and may also fail for no reason; then the advance has seen another state, and
it decides again. What a thread decides about a state that it saw takes no operation.

There is never more than one thread of a service. The caller who connects has waited for the end of
the last one before another is made (`Run.exited_of_started`).

Closing wins over all of this : once the caller has forced closing, or the service closed, no
advance is granted any more, and only another attempt to connect makes the state an earlier one
(`Run.outlives`).
-/

namespace ChatLink

/-! ## Advances -/

/-- Where a thread stands in an advance. -/
inductive Advance where
  | loading
  /-- This state was seen, and is about to be exchanged for the target. -/
  | exchanging (seen : Lifecycle)
  | done (granted : Bool)
  deriving DecidableEq

namespace Advance

/-- How an advance goes on that has seen this state. -/
def look (target seen : Lifecycle) : Advance :=
  if seen < target then exchanging seen else done false

/-- The result, once there is one. -/
def outcome? : Advance → Option Bool
  | done granted => some granted
  | loading | exchanging _ => none

end Advance

/-- One operation of an advance to this target, with the state before and after. -/
inductive Advances (target : Lifecycle) : Lifecycle → Advance → Lifecycle → Advance → Prop
  | loads (s : Lifecycle) : Advances target s .loading s (.look target s)
  | swaps (seen : Lifecycle) : Advances target seen (.exchanging seen) target (.done true)
  /-- The exchange fails, be it that another state was seen or not. -/
  | misses (s seen : Lifecycle) : Advances target s (.exchanging seen) s (.look target s)

/-! ## Operations -/

inductive Side where
  | caller
  | service
  deriving DecidableEq

/-- What an operation is to those who look at the state. -/
inductive Deed where
  | forced (side : Side) (s : Lifecycle)
  /-- An operation of an advance, with the result if it is the last one. -/
  | advanced (target : Lifecycle) (outcome : Option Bool)
  /-- A call to close is over, and whether there was a session to close. -/
  | returned (had : Bool)
  /-- The thread of a service is made. -/
  | started
  /-- The thread of the service comes to its end. -/
  | exited
  /-- The state is only looked at, or not even that. -/
  | quiet
  deriving DecidableEq

/-- Where the thread of the service stands. -/
inductive Worker where
  /-- The attempt to connect is under way. -/
  | opening
  | advancing (target : Lifecycle) (a : Advance)
  /-- The greeting is being written. -/
  | greeting
  | serving
  /-- The state is about to be forced to closed. -/
  | leaving
  /-- The transport is being closed. -/
  | parting
  | gone
  deriving DecidableEq

/-- The service finds out here that it was asked to stop, or meets with a failure. -/
def Worker.canLeave : Worker → Bool
  | opening | greeting | serving => true
  | advancing _ _ | leaving | parting | gone => false

/-- The operations of the service, which may leave for any reason, and which a callback may break
down while it serves. -/
inductive Works : Lifecycle → Worker → Deed → Lifecycle → Worker → Prop
  | opens (s : Lifecycle) : Works s .opening .quiet s (.advancing .established .loading)
  | advances {target s s' : Lifecycle} {a a' : Advance} (h : Advances target s a s' a') :
    Works s (.advancing target a) (.advanced target a'.outcome?) s' (.advancing target a')
  | greets (s : Lifecycle) (granted : Bool) :
    Works s (.advancing .established (.done granted)) .quiet s .greeting
  | greeted (s : Lifecycle) : Works s .greeting .quiet s (.advancing .active .loading)
  | serves (s : Lifecycle) (granted : Bool) :
    Works s (.advancing .active (.done granted)) .quiet s .serving
  | leaves (s : Lifecycle) {w : Worker} (hw : w.canLeave = true) : Works s w .quiet s .leaving
  | breaks (s : Lifecycle) : Works s .serving .exited s .gone
  | forces (s : Lifecycle) : Works s .leaving (.forced .service .closed) .closed .parting
  | ends (s : Lifecycle) : Works s .parting .exited s .gone

/-- Where the caller stands. Calls to connect and to close exclude each other. -/
inductive Caller where
  | free
  /-- Connecting : the thread of an old session is waited for. -/
  | reaping
  /-- There is no thread. -/
  | starting
  /-- The state was loaded, and is about to be forced to connecting. -/
  | readying (previous : Lifecycle)
  /-- The thread is about to be made. -/
  | spawning (previous : Lifecycle)
  /-- Closing : the session was taken, and the state is about to be forced to closing. -/
  | closing
  /-- The service is about to be asked to stop. -/
  | stopping
  /-- The thread is waited for. -/
  | waiting
  /-- The thread is gone, and the state is about to be forced to closed. -/
  | joined
  | returning
  deriving DecidableEq

/-- The shared state, the two threads, and whether the client has a session at hand. -/
structure Threads where
  state : Lifecycle
  caller : Caller
  session : Bool
  worker : Worker
  deriving DecidableEq

/-- A client that was never connected. -/
def Threads.initial : Threads := ⟨.idle, .free, false, .gone⟩

/-- The operations of the caller. -/
inductive Calls : Threads → Deed → Threads → Prop
  | refuses {s : Lifecycle} (hs : s.isLive = true) (session : Bool) (w : Worker) :
    Calls ⟨s, .free, session, w⟩ .quiet ⟨s, .free, session, w⟩
  | looks {s : Lifecycle} (hs : s.isLive = false) (session : Bool) (w : Worker) :
    Calls ⟨s, .free, session, w⟩ .quiet ⟨s, if session then .reaping else .starting, false, w⟩
  | reaps (s : Lifecycle) (session : Bool) :
    Calls ⟨s, .reaping, session, .gone⟩ .quiet ⟨s, .starting, session, .gone⟩
  /-- The endpoint cannot be used. -/
  | abandons (s : Lifecycle) (session : Bool) (w : Worker) :
    Calls ⟨s, .starting, session, w⟩ .quiet ⟨s, .free, session, w⟩
  | reads (s : Lifecycle) (session : Bool) (w : Worker) :
    Calls ⟨s, .starting, session, w⟩ .quiet ⟨s, .readying s, session, w⟩
  | connects (s previous : Lifecycle) (session : Bool) (w : Worker) :
    Calls ⟨s, .readying previous, session, w⟩ (.forced .caller .connecting)
      ⟨.connecting, .spawning previous, session, w⟩
  | spawns (s previous : Lifecycle) (session : Bool) (w : Worker) :
    Calls ⟨s, .spawning previous, session, w⟩ .started ⟨s, .free, true, .opening⟩
  /-- The thread cannot be made. -/
  | restores (s previous : Lifecycle) (session : Bool) (w : Worker) :
    Calls ⟨s, .spawning previous, session, w⟩ (.forced .caller previous)
      ⟨previous, .free, session, w⟩
  /-- There is nothing to close. -/
  | skips (s : Lifecycle) (w : Worker) :
    Calls ⟨s, .free, false, w⟩ (.returned false) ⟨s, .free, false, w⟩
  | takes (s : Lifecycle) (w : Worker) :
    Calls ⟨s, .free, true, w⟩ .quiet ⟨s, .closing, false, w⟩
  | closes (s : Lifecycle) (session : Bool) (w : Worker) :
    Calls ⟨s, .closing, session, w⟩ (.forced .caller .closing) ⟨.closing, .stopping, session, w⟩
  | stops (s : Lifecycle) (session : Bool) (w : Worker) :
    Calls ⟨s, .stopping, session, w⟩ .quiet ⟨s, .waiting, session, w⟩
  | joins (s : Lifecycle) (session : Bool) :
    Calls ⟨s, .waiting, session, .gone⟩ .quiet ⟨s, .joined, session, .gone⟩
  | finishes (s : Lifecycle) (session : Bool) (w : Worker) :
    Calls ⟨s, .joined, session, w⟩ (.forced .caller .closed) ⟨.closed, .returning, session, w⟩
  | returns (s : Lifecycle) (session : Bool) (w : Worker) :
    Calls ⟨s, .returning, session, w⟩ (.returned true) ⟨s, .free, session, w⟩

/-- One operation of one of the two threads. -/
inductive Operates : Threads → Deed → Threads → Prop
  | caller {t t' : Threads} {deed : Deed} (h : Calls t deed t') : Operates t deed t'
  | service {s s' : Lifecycle} {w w' : Worker} {deed : Deed} (caller : Caller) (session : Bool)
      (h : Works s w deed s' w') : Operates ⟨s, caller, session, w⟩ deed ⟨s', caller, session, w'⟩

/-- An interleaving of the operations of both threads. -/
inductive Run : List Deed → Threads → Prop
  | initial : Run [] .initial
  | snoc {deeds : List Deed} {t t' : Threads} {deed : Deed} (h : Run deeds t)
      (ho : Operates t deed t') : Run (deeds ++ [deed]) t'

/-! ## What an operation can do to the state -/

/-- The connection is over with this. -/
def Deed.ends : Deed → Bool
  | forced .caller .closing | forced .service .closed => true
  | forced _ _ | advanced _ _ | returned _ | started | exited | quiet => false

/-- The connection is over, and no attempt began since. -/
def isOver (deeds : List Deed) : Bool :=
  deeds.foldl (fun isOver deed => deed.ends || isOver && deed != .forced .caller .connecting) false

theorem isOver_snoc (deeds : List Deed) (deed : Deed) :
    isOver (deeds ++ [deed]) =
      (deed.ends || isOver deeds && deed != .forced .caller .connecting) :=
  List.foldl_append

theorem isOver_of_snoc {deeds : List Deed} {deed : Deed} (hd : deed.ends = false)
    (h : isOver (deeds ++ [deed]) = true) : isOver deeds = true := by
  rw [isOver_snoc, hd, Bool.false_or, Bool.and_eq_true] at h
  exact h.1

theorem isOver_of_ends {earlier later : List Deed} {deed : Deed} (hd : deed.ends = true)
    (hl : .forced .caller .connecting ∉ later) : isOver (earlier ++ deed :: later) = true := by
  induction later using List.reverseRecOn with
  | nil => rw [isOver_snoc, hd, Bool.true_or]
  | append_singleton later d ih =>
    rw [List.mem_append, List.mem_singleton, not_or] at hl
    rw [← List.cons_append, ← List.append_assoc, isOver_snoc, ih hl.1, Bool.true_and,
      bne_iff_ne.2 (Ne.symm hl.2), Bool.or_true]

/-- What a thread has seen in an advance is earlier than the target. -/
def Advance.IsProper (target : Lifecycle) : Advance → Prop
  | exchanging seen => seen < target
  | loading | done _ => True

theorem Advance.isProper_look (target seen : Lifecycle) : (look target seen).IsProper target := by
  unfold look
  split
  · assumption
  · trivial

theorem Advances.isProper {target s s' : Lifecycle} {a a' : Advance}
    (h : Advances target s a s' a') : a'.IsProper target := by
  cases h with
  | loads | misses => exact Advance.isProper_look target s
  | swaps => trivial

/-- An advance that has decided about a state ends there only if it is not granted. -/
theorem Advance.outcome?_look (target s : Lifecycle) :
    (look target s).outcome? = if s < target then none else some false := by
  unfold look
  split <;> rfl

/-- The state is raised by the operation that grants an advance and by no other, and is never
lowered; and where an advance comes to its end, all of it might have happened in that moment. -/
theorem Advances.linear {target s s' : Lifecycle} {a a' : Advance} (h : Advances target s a s' a')
    (ha : a.IsProper target) :
    (a'.outcome? = some true ↔ s < s') ∧ ¬s' < s ∧
      ∀ granted ∈ a'.outcome?, (s', granted) = s.advance target := by
  have hirrefl : ¬s < s := Nat.lt_irrefl s.rank
  have hlook : (Advance.look target s).outcome? ≠ some true ∧
      ∀ granted ∈ (Advance.look target s).outcome?, (s, granted) = s.advance target := by
    rw [Advance.outcome?_look, Lifecycle.advance]
    split
    · exact ⟨nofun, nofun⟩
    · exact ⟨nofun, fun granted hg => congrArg _ (Option.some.inj hg).symm⟩
  cases h with
  | loads => exact ⟨iff_of_false hlook.1 hirrefl, hirrefl, hlook.2⟩
  | misses => exact ⟨iff_of_false hlook.1 hirrefl, hirrefl, hlook.2⟩
  | swaps =>
    have ha : s < target := ha
    refine ⟨iff_of_true rfl ha, fun h => Nat.lt_asymm ha h, fun granted hg => ?_⟩
    obtain rfl := Option.some.inj hg
    rw [Lifecycle.advance, if_pos ha]

/-! ## What stays true in every interleaving -/

/-- The service advances to the states after connecting, and what it has seen is earlier. -/
def Worker.IsProper : Worker → Prop
  | advancing target a => (target = .established ∨ target = .active) ∧ a.IsProper target
  | opening | greeting | serving | leaving | parting | gone => True

/-- The caller has taken the session, and its thread may still be there. -/
def Caller.holds : Caller → Bool
  | reaping | closing | stopping | waiting => true
  | free | starting | readying _ | spawning _ | joined | returning => false

/-- Where the caller stands, the state can be this one. -/
def Caller.Allows : Caller → Lifecycle → Prop
  | free, s | closing, s => s ≠ .closing
  | reaping, s | starting, s => s = .idle ∨ s = .closed
  | readying previous, s => s = previous ∧ (s = .idle ∨ s = .closed)
  | spawning previous, s => s = .connecting ∧ (previous = .idle ∨ previous = .closed)
  | stopping, s | waiting, s | joined, s => s = .closing ∨ s = .closed
  | returning, s => s = .closed

/-- What is known of the threads after these deeds. -/
structure Sound (deeds : List Deed) (t : Threads) : Prop where
  proper : t.worker.IsProper
  allowed : t.caller.Allows t.state
  /-- Whoever connects or closes has the session, or there is none. -/
  handle (h : t.caller ≠ .free) : t.session = false
  /-- Without a session there is no thread, unless it is waited for. -/
  gone (h : t.session = false) (hc : t.caller.holds = false) : t.worker = .gone
  bare (h : t.session = false) (hc : t.caller = .free) : t.state = .idle ∨ t.state = .closed
  idle (h : t.state = .idle) : t.worker = .gone
  shut (h : isOver deeds = true) : t.state = .closing ∨ t.state = .closed

/-- What an operation of the service can do to the state. -/
theorem Works.effect {s s' : Lifecycle} {w w' : Worker} {deed : Deed} (h : Works s w deed s' w')
    (hw : w.IsProper) :
    w ≠ .gone ∧ w'.IsProper ∧
      (deed = .forced .service .closed ∧ s' = .closed ∨
        deed.ends = false ∧ (s' = s ∨ s < s' ∧ (s' = .established ∨ s' = .active))) := by
  cases h with
  | advances h =>
    refine ⟨nofun, ⟨hw.1, h.isProper⟩, .inr ⟨rfl, ?_⟩⟩
    cases h with
    | loads | misses => exact .inl rfl
    | swaps => exact .inr ⟨hw.2, hw.1⟩
  | opens => exact ⟨nofun, ⟨.inl rfl, trivial⟩, .inr ⟨rfl, .inl rfl⟩⟩
  | greeted => exact ⟨nofun, ⟨.inr rfl, trivial⟩, .inr ⟨rfl, .inl rfl⟩⟩
  | leaves _ hw => exact ⟨(by rintro rfl; cases hw), trivial, .inr ⟨rfl, .inl rfl⟩⟩
  | forces => exact ⟨nofun, trivial, .inl ⟨rfl, rfl⟩⟩
  | greets | serves | breaks | ends => exact ⟨nofun, trivial, .inr ⟨rfl, .inl rfl⟩⟩

namespace Sound

variable {deeds : List Deed} {t t' : Threads} {deed : Deed}

theorem initial : Sound [] .initial :=
  ⟨trivial, nofun, fun _ => rfl, fun _ _ => rfl, fun _ _ => .inl rfl, fun _ => rfl, nofun⟩

/-- An operation of the service. -/
theorem works {s s' : Lifecycle} {w w' : Worker} {caller : Caller} {session : Bool}
    (h : Sound deeds ⟨s, caller, session, w⟩) (hw : Works s w deed s' w') :
    Sound (deeds ++ [deed]) ⟨s', caller, session, w'⟩ := by
  obtain ⟨hproper, hallowed, hhandle, hgone, hbare, hidle, hshut⟩ := h
  obtain ⟨hrunning, hproper', heffect⟩ := hw.effect hproper
  have hs : s ≠ .idle := fun hs => hrunning (hidle hs)
  have hs' : s' ≠ .idle ∧ (s ≠ .closing → s' ≠ .closing) := by
    rcases heffect with ⟨-, rfl⟩ | ⟨-, rfl | ⟨-, rfl | rfl⟩⟩
    · exact ⟨nofun, nofun⟩
    · exact ⟨hs, id⟩
    · exact ⟨nofun, nofun⟩
    · exact ⟨nofun, nofun⟩
  -- nothing is later than closing but closed, so no advance is granted there
  have hstays : s = .closing ∨ s = .closed → s' = s ∨ s' = .closed := by
    rcases heffect with ⟨-, rfl⟩ | ⟨-, rfl | ⟨hlt, rfl | rfl⟩⟩
    · exact fun _ => .inr rfl
    · exact fun _ => .inl rfl
    · rintro (rfl | rfl) <;> exact absurd hlt (by decide)
    · rintro (rfl | rfl) <;> exact absurd hlt (by decide)
  have hended : s = .closing ∨ s = .closed → s' = .closing ∨ s' = .closed := by
    intro h
    rcases hstays h with rfl | rfl
    · exact h
    · exact .inr rfl
  have hthread : session = false → caller.holds = true := by
    intro hsession
    by_contra hholds
    exact hrunning (hgone hsession (by simpa using hholds))
  refine ⟨hproper', ?_, hhandle, fun hsession hc => ?_, fun hsession hc => ?_,
    fun h => absurd h hs'.1, fun h => ?_⟩
  · show caller.Allows s'
    cases caller with
    | free | closing => exact hs'.2 hallowed
    | reaping =>
      obtain rfl := hallowed.resolve_left hs
      exact .inr ((hstays (.inr rfl)).elim id id)
    | stopping | waiting => exact hended hallowed
    | starting | readying _ | spawning _ | joined | returning => cases hthread (hhandle nofun)
  · cases hc.symm.trans (hthread hsession)
  · have hc : caller = .free := hc
    rw [hc] at hthread
    cases hthread hsession
  · rcases heffect with ⟨-, rfl⟩ | ⟨hends, -⟩
    · exact .inr rfl
    · exact hended (hshut (isOver_of_snoc hends h))

/-- An operation of the caller. -/
theorem calls (h : Sound deeds t) (hc : Calls t deed t') : Sound (deeds ++ [deed]) t' := by
  obtain ⟨hproper, hallowed, hhandle, hgone, hbare, hidle, hshut⟩ := h
  have hsame : deed.ends = false → isOver (deeds ++ [deed]) = true →
      t.state = .closing ∨ t.state = .closed :=
    fun hends h => hshut (isOver_of_snoc hends h)
  cases hc with
  | refuses => exact ⟨hproper, hallowed, hhandle, hgone, hbare, hidle, hsame rfl⟩
  | @looks s hs session w =>
    have hallowed : s ≠ .closing := hallowed
    have hdead : s = .idle ∨ s = .closed := by cases s <;> simp_all [Lifecycle.isLive]
    cases session with
    | true => exact ⟨hproper, hdead, fun _ => rfl, nofun, nofun, hidle, hsame rfl⟩
    | false =>
      exact ⟨hproper, hdead, fun _ => rfl, fun _ _ => hgone rfl rfl, nofun, hidle, hsame rfl⟩
  | reaps =>
    exact ⟨hproper, hallowed, fun _ => hhandle nofun, fun _ _ => rfl, nofun, hidle, hsame rfl⟩
  | abandons s session w =>
    have hdead : s = .idle ∨ s = .closed := hallowed
    have hallowed' : s ≠ .closing := by rcases hdead with rfl | rfl <;> nofun
    exact ⟨hproper, hallowed', nofun, hgone, fun _ _ => hdead, hidle, hsame rfl⟩
  | reads =>
    exact ⟨hproper, ⟨rfl, hallowed⟩, fun _ => hhandle nofun, hgone, nofun, hidle, hsame rfl⟩
  | connects s previous session w =>
    obtain ⟨hs, hdead⟩ : s = previous ∧ (s = .idle ∨ s = .closed) := hallowed
    rw [hs] at hdead
    refine ⟨hproper, ⟨rfl, hdead⟩, fun _ => hhandle nofun, hgone, nofun, nofun, fun h => ?_⟩
    rw [isOver_snoc] at h
    simp [Deed.ends] at h
  | spawns s previous session w =>
    obtain ⟨rfl, -⟩ : s = .connecting ∧ _ := hallowed
    exact ⟨trivial, nofun, fun h => absurd rfl h, nofun, nofun, nofun, hsame rfl⟩
  | restores s previous session w =>
    obtain ⟨rfl, hdead⟩ : s = .connecting ∧ (previous = .idle ∨ previous = .closed) := hallowed
    have hends : (Deed.forced .caller previous).ends = false := by
      rcases hdead with rfl | rfl <;> rfl
    have hallowed' : previous ≠ .closing := by rcases hdead with rfl | rfl <;> nofun
    refine ⟨hproper, hallowed', fun h => absurd rfl h, hgone, fun _ _ => hdead,
      fun _ => hgone (hhandle nofun) rfl, fun h => ?_⟩
    exact (hsame hends h).elim nofun nofun
  | skips => exact ⟨hproper, hallowed, hhandle, hgone, hbare, hidle, hsame rfl⟩
  | takes => exact ⟨hproper, hallowed, fun _ => rfl, nofun, nofun, hidle, hsame rfl⟩
  | closes =>
    exact ⟨hproper, .inl rfl, fun _ => hhandle nofun, nofun, nofun, nofun, fun _ => .inl rfl⟩
  | stops => exact ⟨hproper, hallowed, fun _ => hhandle nofun, nofun, nofun, hidle, hsame rfl⟩
  | joins =>
    exact ⟨hproper, hallowed, fun _ => hhandle nofun, fun _ _ => rfl, nofun, hidle, hsame rfl⟩
  | finishes =>
    exact ⟨hproper, rfl, fun _ => hhandle nofun, hgone, nofun, nofun, fun _ => .inr rfl⟩
  | returns s session w =>
    obtain rfl : s = .closed := hallowed
    exact ⟨hproper, nofun, nofun, hgone, fun _ _ => .inr rfl, nofun, fun _ => .inr rfl⟩

theorem operates (h : Sound deeds t) (ho : Operates t deed t') : Sound (deeds ++ [deed]) t' := by
  cases ho with
  | caller hc => exact h.calls hc
  | service _ _ hw => exact h.works hw

end Sound

theorem Run.sound {deeds : List Deed} {t : Threads} (h : Run deeds t) : Sound deeds t := by
  induction h with
  | initial => exact .initial
  | snoc h ho ih => exact ih.operates ho

/-! ## One thread after the other -/

/-- The thread of a service is made only where there is none. -/
theorem Sound.gone_of_started {deeds : List Deed} {t t' : Threads} (h : Sound deeds t)
    (ho : Operates t .started t') : t.worker = .gone := by
  cases ho with
  | caller hc =>
    cases hc with
    | spawns => exact h.gone (h.handle nofun) rfl
  | service _ _ hw => cases hw

theorem Operates.worker_of_started {t t' : Threads} (ho : Operates t .started t') :
    t'.worker = .opening := by
  cases ho with
  | caller hc =>
    cases hc
    rfl
  | service _ _ hw => cases hw

theorem Operates.worker_of_exited {t t' : Threads} (ho : Operates t .exited t') :
    t.worker ≠ .gone ∧ t'.worker = .gone := by
  cases ho with
  | caller hc => cases hc
  | service _ _ hw => cases hw <;> exact ⟨nofun, rfl⟩

/-- Any other operation leaves a thread that is gone as it is, and any other thread too. -/
theorem Operates.worker_gone_iff {t t' : Threads} {deed : Deed} (ho : Operates t deed t')
    (hs : deed ≠ .started) (he : deed ≠ .exited) : t'.worker = .gone ↔ t.worker = .gone := by
  cases ho with
  | caller hc =>
    cases hc with
    | spawns => exact absurd rfl hs
    | _ => exact Iff.rfl
  | service _ _ hw =>
    cases hw with
    | breaks | ends => exact absurd rfl he
    | leaves _ hw => exact iff_of_false nofun (by rintro rfl; cases hw)
    | _ => exact iff_of_false nofun nofun

/-- There is one thread that was made and has not come to its end, or none. -/
theorem Run.count_started {deeds : List Deed} {t : Threads} (h : Run deeds t) :
    deeds.count .started = deeds.count .exited + if t.worker = .gone then 0 else 1 := by
  induction h with
  | initial => rfl
  | @snoc deeds t t' deed h ho ih =>
    rw [List.count_append, List.count_append, ih]
    by_cases hs : deed = .started
    · subst hs
      rw [if_pos (h.sound.gone_of_started ho), ho.worker_of_started]
      rfl
    by_cases he : deed = .exited
    · subst he
      rw [if_neg ho.worker_of_exited.1, if_pos ho.worker_of_exited.2]
      rfl
    · rw [List.count_singleton, List.count_singleton]
      simp [hs, he, ho.worker_gone_iff hs he]

theorem Run.of_isPrefix {earlier deeds : List Deed} {t : Threads} (h : Run deeds t)
    (hearlier : earlier <+: deeds) : ∃ t', Run earlier t' := by
  induction h with
  | initial =>
    obtain rfl := List.prefix_nil.1 hearlier
    exact ⟨_, .initial⟩
  | snoc h ho ih =>
    rcases List.prefix_concat_iff.1 hearlier with rfl | hearlier
    · exact ⟨_, h.snoc ho⟩
    · exact ih hearlier

/-- When the thread of a service is made, all that were made before have come to their end. -/
theorem Run.exited_of_started {earlier deeds : List Deed} {t : Threads} (h : Run deeds t)
    (hearlier : earlier ++ [.started] <+: deeds) :
    earlier.count .started = earlier.count .exited := by
  obtain ⟨t', hrun⟩ := h.of_isPrefix hearlier
  generalize heq : earlier ++ [Deed.started] = deeds' at hrun
  cases hrun with
  | initial => simp at heq
  | snoc hrun ho =>
    obtain ⟨rfl, hdeed⟩ := List.append_inj' heq rfl
    obtain rfl := List.singleton_inj.1 hdeed
    rw [hrun.count_started, if_pos (hrun.sound.gone_of_started ho), Nat.add_zero]

/-! ## Connections that are over -/

/-- A connection that is over is never brought back by the thread of its service. -/
structure Outlives (deeds : List Deed) (t : Threads) : Prop where
  /-- From the moment the caller forced closing, or the service closed, until another attempt
  begins, the state is closing or closed. -/
  ended {earlier later : List Deed} {deed : Deed} (h : deeds = earlier ++ deed :: later)
      (hd : deed = .forced .caller .closing ∨ deed = .forced .service .closed)
      (hl : .forced .caller .connecting ∉ later) :
    t.state = .closing ∨ t.state = .closed
  /-- It is closed when a call to close is over, unless there was nothing to close ever. -/
  returned {had : Bool} {t' : Threads} (h : Operates t (.returned had) t') :
    t'.state = .closed ∨ had = false ∧ t'.state = .idle
  /-- Of the operations of an advance the last one raises the state if the advance is granted, and
  no other does anything to it; what the advance gives back is as if all of it had happened then. -/
  advanced {target : Lifecycle} {outcome : Option Bool} {t' : Threads}
      (h : Operates t (.advanced target outcome) t') :
    (outcome = some true ↔ t.state < t'.state) ∧ ¬t'.state < t.state ∧
      ∀ granted ∈ outcome, (t'.state, granted) = t.state.advance target

theorem Outlives.of_sound {deeds : List Deed} {t : Threads} (h : Sound deeds t) :
    Outlives deeds t := by
  refine ⟨fun {earlier later deed} heq hd hl => h.shut ?_, fun {had t'} ho => ?_,
    fun {target outcome t'} ho => ?_⟩
  · have hends : deed.ends = true := by rcases hd with rfl | rfl <;> rfl
    rw [heq]
    exact isOver_of_ends hends hl
  · cases ho with
    | caller hc =>
      cases hc with
      | skips s w => exact (h.bare rfl rfl).symm.imp id fun hs => ⟨rfl, hs⟩
      | returns => exact .inl h.allowed
    | service _ _ hw => cases hw
  · cases ho with
    | caller hc => cases hc
    | service _ _ hw =>
      cases hw with
      | advances ha => exact ha.linear h.proper.2

end ChatLink
