import ChatLink.Proofs.Json.Capacity
import ChatLink.Proofs.Json.Links

/-!
# What reading on leaves alone

A token that is there stays, with its kind and its first byte, and its end never moves once it is
closed. A container that is still open ends behind all that was read so far, and tokens that come
later begin behind it. `Lexer.Later` says this of two states of one run. It is transitive, so that
it is enough to look at what one byte does (`Lexer.later_of_reads`, `Lexer.later_of_run`).

So the tokens of an accepted text tell which containers were open where : those whose brackets stand
around that place (`Lexer.Later.mem_opened_iff`). A text that is cut inside of a container has lost
its closing bracket and nothing else is found wrong with it (`tokenize_of_cut`).
-/

namespace ChatLink.Json

namespace Lexer

/-- What becomes of the token at `i` in a later state. -/
structure Becomes (s s' : Lexer) (i : Nat) (t t' : Token) : Prop where
  kind_eq : t'.kind = t.kind
  start_eq : t'.start = t.start
  closed (h : i ∉ s.opened) : i ∉ s'.opened ∧ t'.stop = t.stop
  pending (h : i ∈ s.opened) : i ∈ s'.opened ∨ s.position < t'.stop

/-- The second state comes later in a run than the first one. -/
structure Later (s s' : Lexer) : Prop where
  position_le : s.position ≤ s'.position
  frontier_le : s.frontier ≤ s'.frontier
  size_le : s.tokens.size + s.owed ≤ s'.tokens.size + s'.owed
  kept (i : Nat) (t : Token) (h : s.tokens[i]? = some t) :
    ∃ t', s'.tokens[i]? = some t' ∧ Becomes s s' i t t'
  added (i : Nat) (t' : Token) (hi : s.tokens.size ≤ i) (h : s'.tokens[i]? = some t') :
    s.frontier ≤ t'.start ∧ (t'.kind.isContainer → s.position ≤ t'.start)

variable {capacity : Nat} {s m s' : Lexer} {i : Nat} {t t' : Token}

theorem Becomes.refl (s : Lexer) (i : Nat) (t : Token) : Becomes s s i t t :=
  ⟨rfl, rfl, fun h => ⟨h, rfl⟩, .inl⟩

theorem Becomes.trans {u : Token} (h : Becomes s m i t u) (h' : Becomes m s' i u t')
    (hp : s.position ≤ m.position) : Becomes s s' i t t' where
  kind_eq := h'.kind_eq.trans h.kind_eq
  start_eq := h'.start_eq.trans h.start_eq
  closed hi := by
    obtain ⟨hm, hu⟩ := h.closed hi
    obtain ⟨hs, ht⟩ := h'.closed hm
    exact ⟨hs, ht.trans hu⟩
  pending hi := by
    by_cases hm : i ∈ m.opened
    · exact (h'.pending hm).imp_right (Nat.lt_of_le_of_lt hp)
    · right
      rw [(h'.closed hm).2]
      exact (h.pending hi).resolve_left hm

theorem Later.refl (s : Lexer) : Later s s where
  position_le := Nat.le_refl _
  frontier_le := Nat.le_refl _
  size_le := Nat.le_refl _
  kept i t h := ⟨t, h, .refl s i t⟩
  added _ _ hi h := absurd (Array.getElem?_eq_some_iff.1 h).1 (Nat.not_lt.2 hi)

theorem Later.trans (h : Later s m) (h' : Later m s') : Later s s' where
  position_le := Nat.le_trans h.position_le h'.position_le
  frontier_le := Nat.le_trans h.frontier_le h'.frontier_le
  size_le := Nat.le_trans h.size_le h'.size_le
  kept _ _ hi := by
    obtain ⟨u, hu, hbecomes⟩ := h.kept _ _ hi
    obtain ⟨t', ht', hbecomes'⟩ := h'.kept _ u hu
    exact ⟨t', ht', hbecomes.trans hbecomes' h.position_le⟩
  added i t' hi ht' := by
    by_cases hm : i < m.tokens.size
    · have hu := Array.getElem?_eq_getElem hm
      obtain ⟨t'', ht'', hbecomes⟩ := h'.kept i _ hu
      obtain rfl := Option.some.inj (ht'.symm.trans ht'')
      rw [hbecomes.kind_eq, hbecomes.start_eq]
      exact h.added i _ hi hu
    · obtain ⟨hfrontier, hposition⟩ := h'.added i t' (Nat.not_lt.1 hm) ht'
      exact ⟨Nat.le_trans h.frontier_le hfrontier,
        fun hk => Nat.le_trans h.position_le (hposition hk)⟩

/-! ## One byte -/

/-- The tokens stay as they are. -/
theorem later_of_eq (ht : s'.tokens = s.tokens) (ho : s'.opened = s.opened)
    (hp : s.position ≤ s'.position) (hf : s.frontier ≤ s'.frontier) (hw : s.owed ≤ s'.owed) :
    Later s s' where
  position_le := hp
  frontier_le := hf
  size_le := by
    rw [ht]
    exact Nat.add_le_add_left hw _
  kept i t h := ⟨t, ht ▸ h, rfl, rfl, fun hi => ⟨ho ▸ hi, rfl⟩, fun hi => .inl (ho ▸ hi)⟩
  added i t hi h := by
    rw [ht] at h
    exact absurd (Array.getElem?_eq_some_iff.1 h).1 (Nat.not_lt.2 hi)

theorem owed_le_one (s : Lexer) : s.owed ≤ 1 := by
  unfold owed
  split <;> simp

/-- One more token is hung. -/
theorem later_of_hung {kind : Kind} {start stop : Nat} (hn : s.Nested)
    (ht : s'.tokens = s.hung kind start stop) (hm : s'.mode = .between)
    (hp : s.position ≤ s'.position) (hs : s.frontier ≤ start)
    (ho : s'.opened = s.opened ∧ kind.isContainer = false ∨
      s'.opened = s.tokens.size :: s.opened ∧ s.position ≤ start) : Later s s' where
  position_le := hp
  frontier_le := by
    rw [frontier.eq_1 s', hm]
    exact Nat.le_trans hn.frontier_le hp
  size_le := by
    have := s.owed_le_one
    rw [ht, size_hung]
    omega
  kept i t h := by
    have hlt := (Array.getElem?_eq_some_iff.1 h).1
    have hopened : i ∈ s'.opened ↔ i ∈ s.opened := by
      rcases ho with ⟨ho, -⟩ | ⟨ho, -⟩
      · rw [ho]
      · rw [ho, List.mem_cons, or_iff_right (Nat.ne_of_lt hlt)]
    rw [ht, getElem?_hung, Array.getElem?_push, if_neg (Nat.ne_of_lt hlt), h, Option.map_some]
    refine ⟨_, rfl, ?_⟩
    split
    · exact ⟨rfl, rfl, fun hi => ⟨mt hopened.1 hi, rfl⟩, fun hi => .inl (hopened.2 hi)⟩
    · exact ⟨rfl, rfl, fun hi => ⟨mt hopened.1 hi, rfl⟩, fun hi => .inl (hopened.2 hi)⟩
  added i t' hi h := by
    rw [ht] at h
    rcases span_of_getElem?_hung h with ⟨t, h, -⟩ | ⟨-, hk, hstart, -⟩
    · exact absurd (Array.getElem?_eq_some_iff.1 h).1 (Nat.not_lt.2 hi)
    · rw [hstart, hk]
      refine ⟨hs, fun hc => ?_⟩
      rcases ho with ⟨-, hnot⟩ | ⟨-, hle⟩
      · rw [hnot] at hc
        cases hc
      · exact hle

/-- The innermost container ends here. -/
theorem later_of_closed {outer : List Nat} (hm : s.mode = .between)
    (hm' : s'.mode = .between) (hp : s'.position = s.position + 1) (ho : s.opened = i :: outer)
    (ho' : s'.opened = outer)
    (ht : s'.tokens = s.tokens.modify i fun t => { t with stop := s.position + 1 }) :
    Later s s' where
  position_le := by omega
  frontier_le := by
    rw [frontier, frontier, hm, hm']
    dsimp only
    omega
  size_le := by
    rw [ht, Array.size_modify, owed, owed, hm, hm']
  kept j u h := by
    rw [ht, Array.getElem?_modify, h]
    by_cases hij : i = j
    · subst hij
      rw [if_pos rfl]
      refine ⟨_, rfl, rfl, rfl, fun hnot => ?_, fun _ => .inr (Nat.lt_succ_self _)⟩
      exact absurd (ho ▸ List.mem_cons_self) hnot
    · rw [if_neg hij]
      have hopened : j ∈ s'.opened ↔ j ∈ s.opened := by
        rw [ho, ho', List.mem_cons, or_iff_right (Ne.symm hij)]
      exact ⟨u, rfl, rfl, rfl, fun hj => ⟨mt hopened.1 hj, rfl⟩, fun hj => .inl (hopened.2 hj)⟩
  added j u hj h := by
    have hlt := (Array.getElem?_eq_some_iff.1 h).1
    rw [ht, Array.size_modify] at hlt
    exact absurd hlt (Nat.not_lt.2 hj)

/-- Everything that can happen leads to a later state. -/
theorem later_of_reads {bytes : List UInt8} (hn : s.Nested) (hr : Reads capacity s bytes s') :
    Later s s' := by
  cases hr with
  | blank hm | colon hm | quote hm | literal hm | plain hm | backslash hm | short hm | unicode hm
  | more hm =>
    exact later_of_eq rfl rfl (Nat.le_succ _)
      (by simp [frontier, Lexer.advance, awaitValue, hm]) (by simp [owed, Lexer.advance, hm])
  | comma hm =>
    rw [nextMember_eq]
    exact later_of_eq rfl rfl (Nat.le_succ _)
      (by simp [frontier, Lexer.advance, hm]) (by simp [owed, Lexer.advance, hm])
  | digit hm =>
    split
    · exact later_of_eq rfl rfl (Nat.le_succ _)
        (by simp [frontier, Lexer.advance, hm]) (by simp [owed, Lexer.advance, hm])
    · exact later_of_eq rfl rfl (Nat.le_succ _)
        (by simp [frontier, Lexer.advance, hm]) (by simp [owed, Lexer.advance, hm])
  | opening hm hb =>
    have hf : s.frontier = s.position := by rw [frontier, hm]
    exact later_of_hung hn rfl rfl (Nat.le_succ _) (Nat.le_of_eq hf)
      (.inr ⟨rfl, Nat.le_refl _⟩)
  | closing hm _ ho ht => exact later_of_closed hm rfl rfl ho rfl rfl
  | unquote hm =>
    exact later_of_hung hn rfl rfl (Nat.le_succ _) (by rw [frontier, hm]) (.inl ⟨rfl, rfl⟩)
  | ended hm =>
    exact later_of_hung hn rfl rfl (Nat.le_refl _) (by rw [frontier, hm]) (.inl ⟨rfl, rfl⟩)

/-! ## Cuts -/

theorem later_of_run {text : List UInt8} (hn : s.Nested) (hr : s.run capacity text = .ok s') :
    s'.Nested ∧ Later s s' := by
  let P : List UInt8 → Lexer → Prop := fun _ m => m.Nested ∧ Later s m
  have hs : P [] s := ⟨hn, .refl s⟩
  exact @run_induction _ _ _ P
    (fun hm hr => ⟨hm.1.reads hr, hm.2.trans (later_of_reads hm.1 hr)⟩) _ [] hs hr

theorem sound_of_run {text : List UInt8} (h : initial.run capacity text = .ok s) :
    s.Sound ∧ s.position = text.length := by
  let P : List UInt8 → Lexer → Prop := fun done s => s.Sound ∧ s.position = done.length
  have hs : P [] initial := ⟨sound_initial, rfl⟩
  exact @run_induction _ _ _ P
    (fun hm hr => ⟨hm.1.reads hr, by rw [hr.position_eq, hm.2, List.length_append]⟩) _ [] hs h

/-- Where an accepted text is cut, a state was reached from which its tokens came. -/
theorem exists_later_of_tokenize {text more : List UInt8} {tokens : Array Token}
    (h : tokenize capacity (text ++ more) = .ok tokens) :
    ∃ m s, initial.run capacity text = .ok m ∧ Later m s ∧ s.mode = .between ∧ s.opened = [] ∧
      s.tokens = tokens := by
  obtain ⟨s, hrun, hfinish⟩ := exists_of_bind_eq_ok h
  rw [run_append] at hrun
  obtain ⟨m, hm, hmore⟩ := exists_of_bind_eq_ok hrun
  obtain ⟨hs, hlater⟩ := later_of_run (sound_of_run hm).1.1 hmore
  obtain ⟨e, he, hend⟩ := finish_eq_ok hfinish
  refine ⟨m, e, hm, ?_, hend⟩
  rcases he with rfl | he
  · exact hlater
  · exact hlater.trans (later_of_reads hs he)

/-- A container is there once its opening bracket was read. -/
theorem Later.lt_size_iff (h : Later m s) (hn : m.Nested) (ht : s.tokens[i]? = some t)
    (hk : t.kind.isContainer) : i < m.tokens.size ↔ t.start < m.position := by
  constructor
  · intro hi
    have hu := Array.getElem?_eq_getElem hi
    obtain ⟨t', ht', hbecomes⟩ := h.kept i _ hu
    obtain rfl := Option.some.inj (ht.symm.trans ht')
    rw [hbecomes.start_eq]
    exact Nat.lt_of_lt_of_le (hn.within i _ hu).1 hn.frontier_le
  · intro hlt
    by_contra hi
    exact Nat.not_le.2 hlt ((h.added i t (Nat.not_lt.1 hi) ht).2 hk)

/-- The containers that are open are those whose brackets stand around what was read. -/
theorem Later.mem_opened_iff (h : Later m s) (hn : m.Nested) (ho : s.opened = [])
    (ht : s.tokens[i]? = some t) (hk : t.kind.isContainer) :
    i ∈ m.opened ↔ t.start < m.position ∧ m.position < t.stop := by
  rw [← h.lt_size_iff hn ht hk]
  constructor
  · intro hmem
    have hi := hn.listed i hmem
    obtain ⟨t', ht', hbecomes⟩ := h.kept i _ (Array.getElem?_eq_getElem hi)
    obtain rfl := Option.some.inj (ht.symm.trans ht')
    exact ⟨hi, (hbecomes.pending hmem).resolve_left (by simp [ho])⟩
  · rintro ⟨hi, hlt⟩
    have hu := Array.getElem?_eq_getElem hi
    obtain ⟨t', ht', hbecomes⟩ := h.kept i _ hu
    obtain rfl := Option.some.inj (ht.symm.trans ht')
    by_contra hnot
    have hstop := (hbecomes.closed hnot).2
    have hwithin := hn.within i _ hu
    have hfrontier := hn.frontier_le
    omega

/-- A container of which all was read is there, and closed. -/
theorem Later.exists_closed (h : Later m s) (hn : m.Nested) (ho : s.opened = [])
    (ht : s.tokens[i]? = some t) (hk : t.kind.isContainer) (hstart : t.start < m.position)
    (hstop : t.stop ≤ m.position) :
    ∃ u, m.tokens[i]? = some u ∧ i ∉ m.opened ∧ t.kind = u.kind ∧ t.start = u.start ∧
      t.stop = u.stop := by
  have hu := Array.getElem?_eq_getElem ((h.lt_size_iff hn ht hk).2 hstart)
  obtain ⟨t', ht', hbecomes⟩ := h.kept i _ hu
  obtain rfl := Option.some.inj (ht.symm.trans ht')
  have hclosed : i ∉ m.opened := by
    rw [h.mem_opened_iff hn ho ht hk]
    omega
  exact ⟨_, hu, hclosed, hbecomes.kind_eq, hbecomes.start_eq, (hbecomes.closed hclosed).2⟩

end Lexer

/-- Inside of a container nothing is wrong, but the text ends too early. -/
theorem tokenize_of_cut {capacity i : Nat} {text more : List UInt8} {tokens : Array Token}
    {t : Token} (h : tokenize capacity (text ++ more) = .ok tokens) (ht : tokens[i]? = some t)
    (hk : t.kind.isContainer) (hstart : t.start < text.length) (hstop : text.length < t.stop) :
    tokenize capacity text = .error .truncated := by
  have hcapacity := size_le_of_tokenize h
  obtain ⟨m, s, hr, hlater, hmode, ho, rfl⟩ := Lexer.exists_later_of_tokenize h
  obtain ⟨hsound, hposition⟩ := Lexer.sound_of_run hr
  have hopen : i ∈ m.opened := by
    rw [hlater.mem_opened_iff hsound.1 ho ht hk, hposition]
    exact ⟨hstart, hstop⟩
  have hcomplete : ∀ e : Lexer, e.opened = m.opened → e.complete = .error .truncated := by
    intro e he
    rw [Lexer.complete, he]
    exact if_neg (by simpa using List.ne_nil_of_mem hopen)
  rw [tokenize, hr]
  show m.finish capacity = .error .truncated
  unfold Lexer.finish
  split
  case h_1 => exact hcomplete m rfl
  case h_2 start hmode' =>
    -- the primitive that was cut is one of the tokens, so there is room for it
    have hsize := hlater.size_le
    rw [Lexer.owed, Lexer.owed, hmode, hmode'] at hsize
    rw [Lexer.endPrimitive, Lexer.add_eq (Nat.lt_of_lt_of_le hsize hcapacity)]
    exact hcomplete _ rfl
  all_goals rfl

/-! ## Bytes of an accepted text -/

/-- The states before and behind the byte at `n`, and one that comes later. -/
structure Lexer.Passes (capacity : Nat) (text : List UInt8) (n : Nat) (p q s : Lexer) : Prop where
  run_before : initial.run capacity (text.take n) = .ok p
  run_behind : initial.run capacity (text.take (n + 1)) = .ok q
  sound_before : p.Sound
  sound_behind : q.Sound
  position_before : p.position = n
  position_behind : q.position = n + 1
  step_eq : ∃ b, p.step capacity b = .ok q
  later_before : Later p s
  later_behind : Later q s

theorem exists_passes {capacity n : Nat} {text : List UInt8} {tokens : Array Token}
    (h : tokenize capacity text = .ok tokens) (hn : n < text.length) :
    ∃ p q s, Lexer.Passes capacity text n p q s ∧ s.mode = .between ∧ s.opened = [] ∧
      s.tokens = tokens := by
  have htake : text.take (n + 1) = text.take n ++ [text[n]] := by
    rw [List.take_add_one, List.getElem?_eq_getElem hn, Option.toList_some]
  rw [← List.take_append_drop (n + 1) text] at h
  obtain ⟨q, s, hq, hlater, hend⟩ := Lexer.exists_later_of_tokenize h
  have hrun := hq
  rw [htake, Lexer.run_append] at hrun
  obtain ⟨p, hp, hb⟩ := Lexer.exists_of_bind_eq_ok hrun
  obtain ⟨hsound, hposition⟩ := Lexer.sound_of_run hp
  obtain ⟨hsound', hposition'⟩ := Lexer.sound_of_run hq
  have hlater' := (Lexer.later_of_run hsound.1 hb).2.trans hlater
  rw [Lexer.run, List.foldlM_cons] at hb
  obtain ⟨q', hstep, hnil⟩ := Lexer.exists_of_bind_eq_ok hb
  obtain rfl : q' = q := Except.ok.inj hnil
  rw [List.length_take] at hposition hposition'
  exact ⟨p, q', s, ⟨hp, hq, hsound, hsound', by omega, by omega, ⟨_, hstep⟩, hlater', hlater⟩,
    hend⟩

end ChatLink.Json
