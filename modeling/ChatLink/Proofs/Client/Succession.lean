import ChatLink.Proofs.Client.Progress

/-!
# One session after the other

At any moment at most one service is at work for a client and at most one transport is open, and
when an attempt begins there is none (`Client.orderly_chronicle`). A service that had a transport
closes it once and is gone then, whatever made it end, unless it broke down in a callback; one that
was refused, ran out of time or was stopped before had none, and does nothing but end.

A state that is closed does not say that the service is gone : it may still have its transport to
close, and that can take its time. That the next attempt does not begin before is due to the wait in
`Client.reap`. A chapter that were to end without it would be that of a service at work for ever.
-/

namespace ChatLink

namespace Occurrence

/-- The service is gone. -/
def isEnd : Occurrence → Bool
  | ended => true
  | made _ _ | logged _ | consumed _ _ => false

/-- A write begins, or ends. -/
def isWrite : Occurrence → Bool
  | logged (.stalled _) | logged (.write _) | logged (.writeFailed _) => true
  | logged (.connect _) | logged .refused | logged .close | logged (.event _ _)
  | logged (.acted _ _) | made _ _ | consumed _ _ | ended => false

/-- The service closes its transport, or breaks down and loses it. -/
def loses : Occurrence → Bool
  | logged .close | logged (.acted .panic _) => true
  | logged _ | made _ _ | consumed _ _ | ended => false

/-- Nothing can be written or read any more. -/
def dooms : Occurrence → Bool
  | logged (.writeFailed _) => true
  | consumed item _ => item.frame?.isNone
  | logged _ | made _ _ | ended => false

end Occurrence

/-- The service of a chapter is at work : the attempt began, and the service is not gone. -/
def isRunning (chapter : List Occurrence) : Bool :=
  chapter.any Occurrence.begins && !chapter.any Occurrence.isEnd

/-- The transport of a chapter is open : something was written or tried to be, the greeting at the
least, and the transport was neither closed nor lost. -/
def isOpen (chapter : List Occurrence) : Bool :=
  chapter.any Occurrence.isWrite && !chapter.any Occurrence.loses

namespace Phase

/-- The transport is open. -/
def isOpen : Phase → Bool
  | greeting | serving | calling _ _ | closing => true
  | before | held | leaving | breaking | broken | gone => false

end Phase

/-- Sessions come one after the other, and each closes its transport once. -/
structure Orderly (hello : String) (told : List Occurrence) : Prop where
  /-- At any moment at most one service is at work, and at most one transport is open. -/
  single {earlier : List Occurrence} (h : earlier <+: told) :
    (chapters earlier).all.countP isRunning ≤ 1 ∧ (chapters earlier).all.countP isOpen ≤ 1
  /-- When an attempt begins, no service is at work and no transport is open. -/
  fresh {earlier : List Occurrence} {url : String}
      (h : earlier ++ [.logged (.connect url)] <+: told) :
    ∀ chapter ∈ (chapters earlier).all, isRunning chapter = false ∧ isOpen chapter = false
  /-- All other entries come from the service of the attempt that began last. -/
  served {earlier : List Occurrence} {entry : Entry} (h : earlier ++ [.logged entry] <+: told)
      (hentry : ∀ url, entry ≠ .connect url) :
    isRunning (chapters earlier).current = true
  /-- Of a service nothing follows a failed write, or an item that says that nothing more will come,
  but that the transport is closed and the service gone. -/
  doomed {chapter earlier later : List Occurrence} {o : Occurrence}
      (hchapter : chapter ∈ (chapters told).all) (h : chapter = earlier ++ o :: later)
      (ho : o.dooms = true) :
    course later <+: [.logged .close, .ended] ∧
      (.ended ∈ chapter → course later = [.logged .close, .ended])
  /-- A service that is gone has done everything that it had to do, -/
  finished {chapter : List Occurrence} (hchapter : chapter ∈ (chapters told).all)
      (h : .ended ∈ chapter) :
    Finished hello (course chapter)
  /-- and so it is with every service but the latest. -/
  past {chapter : List Occurrence} (hchapter : chapter ∈ (chapters told).past)
      (hbegun : ∃ url, .logged (.connect url) ∈ chapter) :
    .ended ∈ chapter

theorem Chapters.countP_all_le_one {cs : Chapters} {f : List Occurrence → Bool}
    (h : ∀ chapter ∈ cs.past, f chapter = false) : cs.all.countP f ≤ 1 := by
  have hpast : cs.past.countP f = 0 :=
    List.countP_eq_zero.2 fun chapter hchapter => by simp [h chapter hchapter]
  rw [all, List.countP_append, hpast, Nat.zero_add]
  exact List.countP_le_length

theorem any_course {f : Occurrence → Bool} (hf : ∀ step reply, f (.made step reply) = false)
    (chapter : List Occurrence) : (course chapter).any f = chapter.any f := by
  induction chapter with
  | nil => rfl
  | cons o chapter ih =>
    rw [course, List.filter_cons]
    cases o with
    | made step reply => simp [Occurrence.isStep, hf, ← ih, course]
    | logged _ | consumed _ _ | ended => simp [Occurrence.isStep, ← ih, course]

theorem isRunning_course (chapter : List Occurrence) :
    isRunning (course chapter) = isRunning chapter := by
  rw [isRunning, any_course fun _ _ => rfl, any_course fun _ _ => rfl, ← isRunning]

theorem isOpen_course (chapter : List Occurrence) : isOpen (course chapter) = isOpen chapter := by
  rw [isOpen, any_course fun _ _ => rfl, any_course fun _ _ => rfl, ← isOpen]

theorem Occurrence.loses_of_isTraffic {o : Occurrence} (h : o.isTraffic = true) :
    o.loses = false := by
  cases o with
  | logged entry =>
    cases entry with
    | acted action _ => cases action <;> first | rfl | cases h
    | _ => first | rfl | cases h
  | _ => rfl

theorem Occurrence.isEnd_of_isTraffic {o : Occurrence} (h : o.isTraffic = true) :
    o.isEnd = false := by
  cases o <;> first | rfl | cases h

namespace Traffic

variable {hello : String} {body : List Occurrence}

theorem any_isWrite (h : Traffic hello body) : body.any Occurrence.isWrite = true := by
  obtain ⟨⟨entry, rest, rfl, hentry⟩, -⟩ := h
  rcases hentry with rfl | rfl | rfl <;> rfl

theorem any_loses (h : Traffic hello body) : body.any Occurrence.loses = false := by
  rw [List.any_eq_false]
  intro o ho
  rw [Occurrence.loses_of_isTraffic (h.keeps o ho)]
  exact Bool.false_ne_true

theorem any_isEnd (h : Traffic hello body) : body.any Occurrence.isEnd = false := by
  rw [List.any_eq_false]
  intro o ho
  rw [Occurrence.isEnd_of_isTraffic (h.keeps o ho)]
  exact Bool.false_ne_true

end Traffic

namespace Finished

variable {hello : String} {done : List Occurrence}

theorem isRunning_eq_false (h : Finished hello done) : isRunning done = false := by
  cases h <;> simp [isRunning, Occurrence.isEnd]

theorem isOpen_eq_false (h : Finished hello done) : isOpen done = false := by
  cases h <;> simp [isOpen, Occurrence.isWrite, Occurrence.loses]

end Finished

/-- Whatever dooms a service, its transport is closed next. -/
theorem Goes.eq_closing_of_dooms {hello : String} {p q : Phase} {o : Occurrence}
    (h : Goes hello p o q) (ho : o.dooms = true) : q = .closing := by
  cases h with
  | passes hi _ =>
    rw [Option.isNone_iff_eq_none.1 ho] at hi
    cases hi
  | calls hd =>
    have hi := Item.isSome_frame?_of_delivery? hd
    rw [Option.isNone_iff_eq_none.1 ho] at hi
    cases hi
  | greetingFails _ | writeFails _ | ends _ _ => rfl
  | _ => cases ho

theorem Goes.of_closing {hello : String} {q : Phase} {o : Occurrence}
    (h : Goes hello .closing o q) :
    o.isStep = true ∧ q = .closing ∨ o = .logged .close ∧ q = .leaving := by
  cases h with
  | stays _ _ _ => exact .inl ⟨rfl, rfl⟩
  | greets hp | greetingFails hp => rcases hp with hp | hp <;> cases hp
  | hangsUp => exact .inr ⟨rfl, rfl⟩

theorem Goes.of_leaving {hello : String} {q : Phase} {o : Occurrence}
    (h : Goes hello .leaving o q) :
    o.isStep = true ∧ q = .leaving ∨ o = .ended ∧ q = .gone := by
  cases h with
  | stays _ _ _ => exact .inl ⟨rfl, rfl⟩
  | greets hp | greetingFails hp => rcases hp with hp | hp <;> cases hp
  | leaves => exact .inr ⟨rfl, rfl⟩

theorem Goes.of_gone {hello : String} {q : Phase} {o : Occurrence} (h : Goes hello .gone o q) :
    o.isStep = true ∧ q = .gone := by
  cases h with
  | stays _ _ _ => exact ⟨rfl, rfl⟩
  | greets hp | greetingFails hp => rcases hp with hp | hp <;> cases hp

/-- Only a service that is at work leaves an entry, apart from the one that begins its attempt. -/
theorem Goes.isRunning_of_logged {hello : String} {p q : Phase} {entry : Entry}
    (h : Goes hello p (.logged entry) q) (hentry : ∀ url, entry ≠ .connect url) :
    p.isRunning = true := by
  cases h with
  | begins url => exact absurd rfl (hentry url)
  | greets hp | greetingFails hp => rcases hp with rfl | rfl <;> rfl
  | _ => rfl

namespace Course

variable {hello : String} {chapter : List Occurrence} {p : Phase}

theorem isRunning_eq (h : Course hello chapter p) : isRunning chapter = p.isRunning := by
  rw [← isRunning_course]
  have hshape := h.shape
  revert hshape
  generalize course chapter = done
  cases p with
  | before => rintro rfl; rfl
  | held => rintro ⟨url, rfl⟩; rfl
  | greeting => rintro ⟨url, rfl⟩; rfl
  | serving | calling _ _ | closing =>
    rintro ⟨url, body, hbody, rfl⟩
    simp [isRunning, Occurrence.begins, Occurrence.isEnd, hbody.any_isEnd, Phase.isRunning]
  | leaving =>
    rintro (⟨url, rfl⟩ | ⟨url, rfl⟩ | ⟨url, body, hbody, rfl⟩)
    · rfl
    · rfl
    · simp [isRunning, Occurrence.begins, Occurrence.isEnd, hbody.any_isEnd, Phase.isRunning]
  | breaking =>
    rintro ⟨url, body, outcome, hbody, rfl⟩
    simp [isRunning, Occurrence.begins, Occurrence.isEnd, hbody.any_isEnd, Phase.isRunning]
  | broken | gone => exact Finished.isRunning_eq_false

theorem isOpen_eq (h : Course hello chapter p) : isOpen chapter = p.isOpen := by
  rw [← isOpen_course]
  have hshape := h.shape
  revert hshape
  generalize course chapter = done
  cases p with
  | before => rintro rfl; rfl
  | held => rintro ⟨url, rfl⟩; rfl
  | greeting => rintro ⟨url, rfl⟩; rfl
  | serving | calling _ _ | closing =>
    rintro ⟨url, body, hbody, rfl⟩
    simp [isOpen, Occurrence.loses, hbody.any_isWrite, hbody.any_loses, Phase.isOpen]
  | leaving =>
    rintro (⟨url, rfl⟩ | ⟨url, rfl⟩ | ⟨url, body, hbody, rfl⟩)
    · rfl
    · rfl
    · simp [isOpen, Occurrence.loses, Phase.isOpen]
  | breaking =>
    rintro ⟨url, body, outcome, hbody, rfl⟩
    simp [isOpen, Occurrence.loses, Phase.isOpen]
  | broken | gone => exact Finished.isOpen_eq_false

/-- An attempt that was never begun, or whose service is gone, is at rest. -/
theorem atRest (h : Course hello chapter .before ∨ Course hello chapter .gone) :
    isRunning chapter = false ∧ isOpen chapter = false := by
  rcases h with h | h
  · exact ⟨h.isRunning_eq, h.isOpen_eq⟩
  · exact ⟨h.isRunning_eq, h.isOpen_eq⟩

/-- A service that is doomed closes its transport, and is gone. -/
theorem doomed (h : Course hello chapter p) {earlier later : List Occurrence} {o : Occurrence}
    (heq : chapter = earlier ++ o :: later) (ho : o.dooms = true) :
    (p = .closing ∧ course later = []) ∨ (p = .leaving ∧ course later = [.logged .close]) ∨
      (p = .gone ∧ course later = [.logged .close, .ended]) := by
  induction h generalizing later with
  | start => exact absurd heq (by simp)
  | quits _ hq ih =>
    rcases ih heq with ⟨rfl, -⟩ | ⟨rfl, -⟩ | ⟨rfl, -⟩ <;> cases hq
  | @snoc chapter p q o' h ho' ih =>
    rcases List.eq_nil_or_concat later with rfl | ⟨later, last, rfl⟩
    · obtain ⟨-, hlast⟩ := List.append_inj' heq rfl
      obtain rfl := List.singleton_inj.1 hlast
      exact .inl ⟨ho'.eq_closing_of_dooms ho, rfl⟩
    · rw [List.concat_eq_append] at heq ⊢
      rw [← List.cons_append, ← List.append_assoc] at heq
      obtain ⟨hchapter, hlast⟩ := List.append_inj' heq rfl
      obtain rfl := List.singleton_inj.1 hlast
      have hstep : o'.isStep = true → course (later ++ [o']) = course later := by
        intro hstep
        cases o' with
        | made step reply => exact course_snoc_step later step reply
        | logged _ | consumed _ _ | ended => cases hstep
      rcases ih hchapter with ⟨rfl, hlater⟩ | ⟨rfl, hlater⟩ | ⟨rfl, hlater⟩
      · rcases ho'.of_closing with ⟨hmade, rfl⟩ | ⟨rfl, rfl⟩
        · exact .inl ⟨rfl, (hstep hmade).trans hlater⟩
        · exact .inr (.inl ⟨rfl, by rw [course_snoc later rfl, hlater]; rfl⟩)
      · rcases ho'.of_leaving with ⟨hmade, rfl⟩ | ⟨rfl, rfl⟩
        · exact .inr (.inl ⟨rfl, (hstep hmade).trans hlater⟩)
        · exact .inr (.inr ⟨rfl, by rw [course_snoc later rfl, hlater]; rfl⟩)
      · obtain ⟨hmade, rfl⟩ := ho'.of_gone
        exact .inr (.inr ⟨rfl, (hstep hmade).trans hlater⟩)

end Course

namespace Client

variable {settings : Settings} {c : Client} {s : Session} {told : List Occurrence}

/-! ## Stops -/

/-- What comes of a service that is stopped, and of one that is waited for. -/
structure Stops (c : Client) : Prop where
  /-- An attempt that is held is given up, also when its time runs out. -/
  held {step : Step} (h : c.stage? = some .held)
      (hstep : step.closes = true ∨ step = .expire ∧ c.settings.timer?.isSome = true) :
    ∃ reply, occurrences (some c) (.step step) = [.made step reply, .ended]
  /-- An open transport is closed. -/
  opened {step : Step} {stage : Stage} (h : c.stage? = some stage)
      (hopen : stage.inbox?.isSome = true) (hstep : step.closes = true) :
    ∃ reply, occurrences (some c) (.step step) = [.made step reply, .logged .close, .ended]
  /-- So it is in the turns after the callback asked for it. -/
  asked {s : Session} (hs : c.session = some s) (hopen : s.stage.inbox?.isSome = true)
      (stop : s.stopping = true) :
    c.settleOccurrences = [.logged .close, .ended]
  /-- Whoever connects where no session lives waits for the last service, and it is gone then. -/
  reaped (h : c.refusal? .application = none) :
    c.halt.settle.1.isServed = false ∧ c.reap.1.session = none ∧ c.reap.1.serviceThread = none ∧
      ∀ url, c.attempt? .connect = some url → c.callOccurrences .connect =
        .made .connect (.called .ok) :: (c.lastWords ++ [.logged (.connect url)])

/-- Whoever takes the session down leaves nothing to do for its service. -/
theorem occurrences_of_closes {step : Step} (h : step.closes = true) :
    occurrences (some c) (.step step) = .made step (c.apply step).2.1 :: c.lastWords := by
  have hnone : (c.apply step).1.session = none := by
    rw [apply_of_closes h]
    exact c.session_close
  rw [occurrences, callOccurrences_of_closes h,
    settleOccurrences_of_turn_eq_none (turn_of_none hnone), List.append_nil]

/-- A service that is asked to stop is gone at last, wherever it stands, and whatever its server
does. -/
theorem isServed_settle_halt (c : Client) : c.halt.settle.1.isServed = false := by
  rcases hs : c.session with _ | s
  · have hhalt : c.halt.session = none := by rw [halt, hs, Option.map_none]
    rw [settle_of_turn_eq_none (turn_of_none hhalt)]
    exact isServed_of_none (congrArg (Option.map _) hhalt)
  · have hhalt : c.halt.session =
        some { s with stopping := true, outbox := s.outbox.dropSender 0 } := by
      rw [halt, hs, Option.map_some]
    rw [settle_of_stopping hhalt rfl]
    show s.stage.last.isRunning = false
    cases s.stage <;> rfl

theorem stops (h : Coherent settings c) : c.Stops := by
  refine ⟨fun {step} hheld hstep => ?_, fun {step stage} hstage hopen hstep => ?_,
    fun {s} hs hopen stop => ?_, fun hr => ?_⟩
  · obtain ⟨s, hs, hst⟩ := Option.map_eq_some_iff.1 hheld
    rcases hstep with hstep | ⟨rfl, htimer⟩
    · exact ⟨_, by rw [occurrences_of_closes hstep, lastWords_of_session hs, hst]; rfl⟩
    · have hexpire : c.expire = c.leave s none := by
        obtain ⟨ms, hms⟩ := Option.isSome_iff_exists.1 htimer
        rw [expire, hs, hms]
        exact if_pos hst
      have hleft : (c.leave s none).turn = some
          ((c.leave s none).withSession { s with stage := .ended }, []) := rfl
      have hgone : (c.leave s none).settleOccurrences = [.ended] := by
        rw [settleOccurrences_of_turn hleft, settleOccurrences_of_turn_eq_none rfl]
        rfl
      refine ⟨.nothing, ?_⟩
      rw [occurrences, callOccurrences_eq_made rfl rfl, apply_expire, hexpire, hgone]
      rfl
  · obtain ⟨s, hs, rfl⟩ := Option.map_eq_some_iff.1 hstage
    refine ⟨(c.apply step).2.1, ?_⟩
    rw [occurrences_of_closes hstep, lastWords_of_session hs, if_pos hopen,
      if_pos (Stage.isRunning_of_inbox? hopen)]
    rfl
  · rw [settleOccurrences_of_stopping hs stop, lastWords_of_session hs, if_pos hopen,
      if_pos (Stage.isRunning_of_inbox? hopen)]
    rfl
  · refine ⟨c.isServed_settle_halt, ?_, ?_, fun url => callOccurrences_of_begins⟩
    · rw [h.reap_eq (refusal?_eq_none.1 hr).2]
      rfl
    · rw [h.reap_eq (refusal?_eq_none.1 hr).2]
      rfl

/-! ## Runs -/

/-- What is told of the latest attempt is the case : who is at work, and whether a transport is
open. -/
structure Shows (c : Client) (told : List Occurrence) : Prop where
  running : isRunning (chapters told).current = c.isServed
  opened : isOpen (chapters told).current = c.stage?.any (·.inbox?.isSome)
  /-- A service that is doomed is gone when it can do nothing more. -/
  gone {o : Occurrence} (h : o ∈ (chapters told).current) (ho : o.dooms = true)
      (ht : c.turn = none) :
    .ended ∈ (chapters told).current

theorem isOpen_phase (c : Client) : c.phase.isOpen = c.stage?.any (·.inbox?.isSome) := by
  rcases hs : c.session with _ | s
  · have hstage : c.stage? = none := congrArg (Option.map _) hs
    rw [hstage]
    rcases phase_of_none hs with hp | hp <;> rw [hp] <;> rfl
  · rw [phase_of_session hs rfl, stage?_of_session hs rfl]
    rcases s.stage with _ | _ | _ | (_ | _) | _ | _ | _ <;> rfl

theorem Follows.shows (h : Follows settings c told) : Shows c told := by
  refine ⟨h.current.isRunning_eq.trans c.isServed_eq.symm, h.current.isOpen_eq.trans c.isOpen_phase,
    fun {o} hmem ho ht => ?_⟩
  obtain ⟨earlier, later, hchapter⟩ := List.append_of_mem hmem
  have hresting := isResting_of_turn_eq_none ht
  rw [h.current.ended_mem_iff]
  rcases h.current.doomed hchapter ho with ⟨hp, -⟩ | ⟨hp, -⟩ | ⟨hp, -⟩ <;> rw [hp] at hresting ⊢
  · cases hresting
  · cases hresting
  · rfl

theorem orderly_of_follows (h : Follows settings c told) : Orderly settings.greeting told := by
  have hrest : ∀ chapter ∈ (chapters told).past,
      isRunning chapter = false ∧ isOpen chapter = false :=
    fun chapter hchapter => Course.atRest (h.past chapter hchapter)
  refine ⟨fun {earlier} he => ?_, fun {earlier url} he chapter hchapter => ?_,
    fun {earlier entry} he hentry => ?_, fun hchapter heq ho => ?_, fun hchapter hended => ?_,
    fun {chapter} hchapter hbegun => ?_⟩
  · have hpast := (chapters_of_isPrefix he).1.subset
    exact ⟨Chapters.countP_all_le_one fun chapter hchapter => (hrest chapter (hpast hchapter)).1,
      Chapters.countP_all_le_one fun chapter hchapter => (hrest chapter (hpast hchapter)).2⟩
  · have hpast := (chapters_of_isPrefix he).1.subset
    rw [chapters_snoc] at hpast
    exact hrest chapter (hpast hchapter)
  · obtain ⟨-, chapter, hchapter, hcurrent⟩ := chapters_of_isPrefix he
    obtain ⟨p, hcourse, -⟩ := h.exists_course hchapter
    have hbegins : (Occurrence.logged entry).begins = false := by
      cases entry with
      | connect url => exact absurd rfl (hentry url)
      | _ => rfl
    rw [chapters_snoc, Chapters.note, hbegins] at hcurrent
    obtain ⟨q, q', hq, hgoes⟩ := hcourse.goes_of_isPrefix hcurrent
    exact hq.isRunning_eq.trans (hgoes.isRunning_of_logged hentry)
  · obtain ⟨p, hcourse, -⟩ := h.exists_course hchapter
    rw [hcourse.ended_mem_iff]
    rcases hcourse.doomed heq ho with ⟨rfl, hlater⟩ | ⟨rfl, hlater⟩ | ⟨rfl, hlater⟩ <;> rw [hlater]
    · exact ⟨List.nil_prefix, fun hover => by cases hover⟩
    · exact ⟨List.prefix_append [Occurrence.logged .close] [.ended], fun hover => by cases hover⟩
    · exact ⟨List.prefix_rfl, fun _ => rfl⟩
  · obtain ⟨p, hcourse, -⟩ := h.exists_course hchapter
    have hover := hcourse.ended_mem_iff.1 hended
    have hshape := hcourse.shape
    cases p <;> first | exact hshape | cases hover
  · obtain ⟨url, hurl⟩ := hbegun
    rcases h.past chapter hchapter with hcourse | hcourse
    · exact absurd hurl (not_mem_of_course_eq hcourse.shape rfl List.not_mem_nil)
    · exact hcourse.ended_mem_iff.2 rfl

/-- Sessions come one after the other, and each closes its transport once. -/
theorem orderly_chronicle (reader : Address.Reader) (settings : Settings) (moves : List Move) :
    Orderly settings.greeting (chronicle reader settings moves).2 ∧
      ∀ c ∈ (chronicle reader settings moves).1,
        c.Shows (chronicle reader settings moves).2 ∧ c.Stops := by
  obtain ⟨c, hc, hclient⟩ := follows_chronicle reader settings moves
  refine ⟨orderly_of_follows hc, fun c' hc' => ?_⟩
  rw [hclient c' hc']
  exact ⟨hc.shows, stops hc.coherent⟩

end Client

end ChatLink
