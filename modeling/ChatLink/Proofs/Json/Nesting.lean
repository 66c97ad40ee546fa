import ChatLink.Json.Cursor
import ChatLink.Proofs.Json.Reading

/-!
# Spans of accepted texts

Also where separators are missing or stray, brackets and quotes decide where tokens begin and end.
So for every text that has tokens, a later token begins behind an earlier one or stands wholly
inside it, and then the earlier one is a container (`nested_of_tokenize`). While a text is read this
is said of the containers that are closed (`Lexer.Nested`), and nothing ends behind the frontier,
which is the byte where the unfinished string or primitive begins.

A walk from a value never moves its boundary then, and ends at the first token that begins behind
the value (`Cursor.skipFrom_stop`). A search visits a key, passes what comes behind it, and goes on
(`Cursor.Visits`). Where keys and values do not alternate, a visited token can be a container, and
the search goes on inside it. `Cursor.find?_isMember` : that is the only way in which a search gets
into a container, so a search that visits none finds direct members only.
-/

namespace ChatLink.Json

open ChatLink.Text

/-- The second token, which is later, begins behind the first one or stands wholly inside it. -/
def Token.Nests (t u : Token) : Prop :=
  t.start < u.start ∧ (t.stop ≤ u.start ∨ t.kind.isContainer ∧ u.stop < t.stop)

/-- The second token begins inside the first one. -/
def Token.Holds (t u : Token) : Prop := t.start < u.start ∧ u.start < t.stop

instance (t u : Token) : Decidable (t.Holds u) :=
  inferInstanceAs (Decidable (t.start < u.start ∧ u.start < t.stop))

namespace Lexer

variable {capacity : Nat} {s s' : Lexer}

/-- No token ends behind this byte, and the next one does not begin before it. -/
def frontier (s : Lexer) : Nat :=
  match s.mode with
  | .between => s.position
  | .string start | .escape start | .digits start _ | .primitive start => start

/-- A token that is hung leaves the spans before it alone. -/
theorem span_of_getElem?_hung {kind : Kind} {start stop i : Nat} {u : Token}
    (h : (s.hung kind start stop)[i]? = some u) :
    (∃ t : Token, s.tokens[i]? = some t ∧ u.kind = t.kind ∧ u.start = t.start ∧ u.stop = t.stop) ∨
      i = s.tokens.size ∧ u.kind = kind ∧ u.start = start ∧ u.stop = stop := by
  rw [getElem?_hung] at h
  obtain ⟨t, ht, rfl⟩ := Option.map_eq_some_iff.1 h
  rw [Array.getElem?_push] at ht
  split at ht
  · next hi =>
    cases ht
    right
    split <;> exact ⟨hi, rfl, rfl, rfl⟩
  · left
    split <;> exact ⟨t, ht, rfl, rfl, rfl⟩

/-- The container that is closed gets its end, and all other tokens stay what they were. -/
theorem getElem?_closed {tokens : Array Token} {i j stop : Nat} {t u : Token}
    (ht : tokens[i]? = some t)
    (h : (tokens.modify i fun t => { t with stop := stop })[j]? = some u) :
    (j ≠ i ∧ tokens[j]? = some u) ∨ j = i ∧ u = { t with stop := stop } := by
  rw [Array.getElem?_modify] at h
  split at h
  · next hij =>
    subst hij
    rw [ht] at h
    cases h
    exact .inr ⟨rfl, rfl⟩
  · next hij => exact .inl ⟨Ne.symm hij, h⟩

theorem isContainer_of_opening {b : UInt8} {kind : Kind} (h : Sign.of b = .opening kind) :
    kind.isContainer := by
  have hall : ∀ b : UInt8, ∀ kind ∈ [Kind.string, .primitive], Sign.of b ≠ .opening kind := by
    decide +kernel
  cases kind with
  | object | array => rfl
  | string | primitive => exact absurd h (hall b _ (by simp))

/-- What is said of spans while a text is read. -/
structure Nested (s : Lexer) : Prop where
  frontier_le : s.frontier ≤ s.position
  begun : ∀ start, s.mode = .primitive start → start < s.position
  within : ∀ (i : Nat) (t : Token), s.tokens[i]? = some t →
    t.start < s.frontier ∧ t.start ≤ t.stop ∧ t.stop ≤ s.frontier
  ordered : ∀ (i j : Nat) (t u : Token), i < j → s.tokens[i]? = some t → s.tokens[j]? = some u →
    t.start < u.start
  closed : ∀ (i j : Nat) (t u : Token), i < j → i ∉ s.opened → s.tokens[i]? = some t →
    s.tokens[j]? = some u →
      t.stop ≤ u.start ∨ t.kind.isContainer ∧ u.stop < t.stop ∧ j ∉ s.opened
  inner : s.opened.Pairwise (· > ·)
  listed : ∀ i ∈ s.opened, i < s.tokens.size
  container : ∀ (i : Nat) (t : Token), i ∈ s.opened → s.tokens[i]? = some t → t.kind.isContainer

theorem nested_initial : initial.Nested where
  frontier_le := Nat.le_refl _
  begun := nofun
  within := by simp [initial]
  ordered := by simp [initial]
  closed := by simp [initial]
  inner := .nil
  listed := by simp [initial]
  container := by simp [initial]

namespace Nested

/-- The tokens stay as they are, and the frontier moves on. -/
theorem pass (h : s.Nested) (ht : s'.tokens = s.tokens) (ho : s'.opened = s.opened)
    (hf : s.frontier ≤ s'.frontier) (hp : s'.frontier ≤ s'.position)
    (hb : ∀ start, s'.mode = .primitive start → start < s'.position) : s'.Nested where
  frontier_le := hp
  begun := hb
  within := by
    rw [ht]
    intro i t hi
    have := h.within i t hi
    omega
  ordered := ht ▸ h.ordered
  closed := by
    rw [ht, ho]
    exact h.closed
  inner := ho ▸ h.inner
  listed := by
    rw [ht, ho]
    exact h.listed
  container := by
    rw [ht, ho]
    exact h.container

/-- A new token begins behind all that are closed. -/
theorem hang (h : s.Nested) {kind : Kind} {start stop : Nat} (hm : s'.mode = .between)
    (ht : s'.tokens = s.hung kind start stop) (hs : s.frontier ≤ start) (hle : start ≤ stop)
    (hp : start < s'.position) (hstop : stop ≤ s'.position)
    (ho : s'.opened = s.opened ∨ s'.opened = s.tokens.size :: s.opened ∧ kind.isContainer) :
    s'.Nested where
  frontier_le := by rw [frontier, hm]
  begun := by
    rw [hm]
    nofun
  within := by
    rw [ht, frontier, hm]
    intro i u hi
    rcases span_of_getElem?_hung hi with ⟨t, hi, hk, hs', he⟩ | ⟨hi, hk, hs', he⟩
    · have := h.within i t hi
      dsimp only
      omega
    · dsimp only
      omega
  ordered := by
    rw [ht]
    intro i j t u hij hi hj
    rcases span_of_getElem?_hung hi with ⟨t', hi, -, hs', -⟩ | ⟨hi, -⟩
    · rcases span_of_getElem?_hung hj with ⟨u', hj, -, hu', -⟩ | ⟨-, -, hu', -⟩
      · have := h.ordered i j t' u' hij hi hj
        omega
      · have := h.within i t' hi
        omega
    · have := (Array.getElem?_eq_some_iff.1 hj).1
      rw [size_hung] at this
      omega
  closed := by
    have hold : ∀ i, i ∈ s.opened → i ∈ s'.opened := by
      rcases ho with ho | ⟨ho, -⟩ <;> simp +contextual [ho]
    have hnew : ∀ i, i ∈ s'.opened → i ∈ s.opened ∨ i = s.tokens.size := by
      rcases ho with ho | ⟨ho, -⟩ <;> simp +contextual [ho, or_comm]
    rw [ht]
    intro i j t u hij hni hi hj
    rcases span_of_getElem?_hung hi with ⟨t', hi, hk, -, he⟩ | ⟨hi, -⟩
    · rcases span_of_getElem?_hung hj with ⟨u', hj, -, hu, hv⟩ | ⟨-, -, hu, -⟩
      · rw [hk, he, hu, hv]
        refine (h.closed i j t' u' hij (fun ho => hni (hold i ho)) hi hj).imp_right ?_
        rintro ⟨hc, hlt, hnj⟩
        have := (Array.getElem?_eq_some_iff.1 hj).1
        exact ⟨hc, hlt, fun ho => (hnew j ho).elim hnj (by omega)⟩
      · have := h.within i t' hi
        left
        omega
    · have := (Array.getElem?_eq_some_iff.1 hj).1
      rw [size_hung] at this
      omega
  inner := by
    rcases ho with ho | ⟨ho, -⟩
    · exact ho ▸ h.inner
    · rw [ho]
      exact .cons h.listed h.inner
  listed := by
    have hlt : ∀ i ∈ s.opened, i < s.tokens.size + 1 :=
      fun i hi => Nat.lt_succ_of_lt (h.listed i hi)
    rw [ht, size_hung]
    rcases ho with ho | ⟨ho, -⟩
    · exact ho ▸ hlt
    · rw [ho, List.forall_mem_cons]
      exact ⟨Nat.lt_succ_self _, hlt⟩
  container := by
    rw [ht]
    intro i u hi hu
    rcases span_of_getElem?_hung hu with ⟨t, htok, hk, -⟩ | ⟨hnew, hk, -⟩
    · have := (Array.getElem?_eq_some_iff.1 htok).1
      have hold : i ∈ s.opened := by
        rcases ho with ho | ⟨ho, -⟩
        · exact ho ▸ hi
        · exact (List.mem_cons.1 (ho ▸ hi)).resolve_left (by omega)
      exact hk ▸ h.container i t hold htok
    · rcases ho with ho | ⟨-, hc⟩
      · exact absurd (h.listed i (ho ▸ hi)) (by omega)
      · exact hk ▸ hc

/-- The innermost container ends behind all that stands in it. -/
theorem close (h : s.Nested) (hm : s.mode = .between) {i : Nat} {outer : List Nat} {t : Token}
    (ho : s.opened = i :: outer) (ht : s.tokens[i]? = some t) :
    Nested ⟨s.position + 1, s.tokens.modify i fun t => { t with stop := s.position + 1 }, t.parent,
      outer, .between⟩ := by
  have hf : s.frontier = s.position := by rw [frontier, hm]
  have hc : t.kind.isContainer := h.container i t (ho ▸ List.mem_cons_self) ht
  have hinner := h.inner
  rw [ho, List.pairwise_cons] at hinner
  constructor
  case frontier_le => exact Nat.le_refl _
  case begun => nofun
  case within =>
    intro j u hj
    rcases getElem?_closed ht hj with ⟨-, hj⟩ | ⟨-, rfl⟩
    · have := h.within j u hj
      simp only [frontier]
      omega
    · have := h.within i t ht
      simp only [frontier]
      omega
  case ordered =>
    intro a b ta tb hab ha hb
    rcases getElem?_closed ht ha with ⟨-, ha'⟩ | ⟨rfl, rfl⟩ <;>
      rcases getElem?_closed ht hb with ⟨-, hb'⟩ | ⟨rfl, rfl⟩
    · exact h.ordered a b ta tb hab ha' hb'
    · exact h.ordered a b ta t hab ha' ht
    · exact h.ordered a b t tb hab ht hb'
    · omega
  case closed =>
    intro a b ta tb hab hna ha hb
    rcases getElem?_closed ht ha with ⟨hai, ha'⟩ | ⟨rfl, rfl⟩
    · have hna' : a ∉ s.opened := by
        rw [ho, List.mem_cons, not_or]
        exact ⟨hai, hna⟩
      rcases getElem?_closed ht hb with ⟨-, hb'⟩ | ⟨rfl, rfl⟩
      · refine (h.closed a b ta tb hab hna' ha' hb').imp_right ?_
        rintro ⟨hk, hlt, hnb⟩
        exact ⟨hk, hlt, fun hb => hnb (ho ▸ List.mem_cons_of_mem _ hb)⟩
      · refine .inl ((h.closed a b ta t hab hna' ha' ht).resolve_right ?_)
        rintro ⟨-, -, hnb⟩
        exact hnb (ho ▸ List.mem_cons_self)
    · rcases getElem?_closed ht hb with ⟨-, hb'⟩ | ⟨rfl, -⟩
      · have := h.within b tb hb'
        refine .inr ⟨hc, ?_, fun hb => ?_⟩
        · dsimp only
          omega
        · have := hinner.1 b hb
          omega
      · omega
  case inner => exact hinner.2
  case listed =>
    intro j hj
    rw [Array.size_modify]
    exact h.listed j (ho ▸ List.mem_cons_of_mem _ hj)
  case container =>
    intro j u hj hu
    rcases getElem?_closed ht hu with ⟨-, hu'⟩ | ⟨-, rfl⟩
    · exact h.container j u (ho ▸ List.mem_cons_of_mem _ hj) hu'
    · exact hc

/-- One byte further between two tokens. -/
theorem between (h : s.Nested) (hm : s.mode = .between) (ht : s'.tokens = s.tokens)
    (ho : s'.opened = s.opened) (hp : s'.position = s.position + 1) (hm' : s'.mode = .between) :
    s'.Nested := by
  have hf : s.frontier = s.position := by rw [frontier, hm]
  have hf' : s'.frontier = s'.position := by rw [frontier, hm']
  refine h.pass ht ho (by omega) (by omega) ?_
  rw [hm']
  nofun

/-- One byte further in a string or a primitive. -/
theorem advance (h : s.Nested) {mode : Mode} (hf : (s.advance mode).frontier = s.frontier)
    (hb : ∀ start, mode = .primitive start → s.mode = .primitive start) :
    (s.advance mode).Nested := by
  have hle := h.frontier_le
  have hp : (s.advance mode).position = s.position + 1 := rfl
  refine h.pass rfl rfl (by omega) (by omega) fun start hm => ?_
  have := h.begun start (hb start hm)
  omega

/-- Everything that can happen leaves spans nested. -/
theorem reads {bytes : List UInt8} (h : s.Nested) (hr : Reads capacity s bytes s') :
    s'.Nested := by
  have hle := h.frontier_le
  cases hr with
  | blank hm => exact h.between hm rfl rfl rfl rfl
  | colon hm => exact h.between hm rfl rfl rfl rfl
  | comma hm =>
    rw [nextMember_eq]
    exact h.between hm rfl rfl rfl rfl
  | opening hm hb =>
    have hf : s.frontier = s.position := by rw [frontier, hm]
    exact h.hang rfl rfl hle (Nat.le_refl _) (Nat.lt_succ_self _) (Nat.le_succ _)
      (.inr ⟨rfl, isContainer_of_opening hb⟩)
  | closing hm _ ho ht => exact h.close hm ho ht
  | quote hm =>
    have hf : s.frontier = s.position := by rw [frontier, hm]
    exact h.pass rfl rfl (hf ▸ Nat.le_succ _) (Nat.le_refl _) fun _ hs => by cases hs
  | plain hm => exact h.advance (by simp only [frontier, Lexer.advance, hm]) fun _ hs => by cases hs
  | backslash hm =>
    exact h.advance (by simp only [frontier, Lexer.advance, hm]) fun _ hs => by cases hs
  | short hm => exact h.advance (by simp only [frontier, Lexer.advance, hm]) fun _ hs => by cases hs
  | unicode hm =>
    exact h.advance (by simp only [frontier, Lexer.advance, hm]) fun _ hs => by cases hs
  | digit hm =>
    split
    · exact h.advance (by simp only [frontier, Lexer.advance, hm]) fun _ hs => by cases hs
    · exact h.advance (by simp only [frontier, Lexer.advance, hm]) fun _ hs => by cases hs
  | @unquote start hm =>
    have hf : s.frontier = start := by rw [frontier, hm]
    exact h.hang rfl rfl (Nat.le_of_eq hf) (hf ▸ hle) (by dsimp only; omega) (Nat.le_succ _)
      (.inl rfl)
  | literal hm =>
    have hf : s.frontier = s.position := by rw [frontier, hm]
    refine h.pass rfl rfl (Nat.le_of_eq hf) (Nat.le_succ _) fun start hs => ?_
    cases hs
    exact Nat.lt_succ_self _
  | more hm =>
    refine h.advance (by simp only [frontier, Lexer.advance, hm]) fun start hs => ?_
    cases hs
    exact hm
  | @ended start hm =>
    have hf : s.frontier = start := by rw [frontier, hm]
    have hb := h.begun start hm
    exact h.hang rfl rfl (Nat.le_of_eq hf) (Nat.le_of_lt hb) hb (Nat.le_refl _) (.inl rfl)

end Nested

end Lexer

/-- Spans of tokens are nested, and lie in the text. -/
theorem nested_of_tokenize {capacity : Nat} {text : List UInt8} {tokens : Array Token}
    (h : tokenize capacity text = .ok tokens) :
    tokens.toList.Pairwise Token.Nests ∧
      ∀ t ∈ tokens, t.start ≤ t.stop ∧ t.stop ≤ text.length := by
  obtain ⟨s, ⟨hs, hp⟩, hm, ho, rfl⟩ := Lexer.tokenize_induction
    (P := fun done s => s.Nested ∧ s.position = done.length) ⟨Lexer.nested_initial, rfl⟩
    (fun hs hr => ⟨hs.1.reads hr, by rw [hr.position_eq, hs.2, List.length_append]⟩) h
  constructor
  · rw [List.pairwise_iff_getElem]
    intro i j hi hj hij
    have hti : s.tokens[i]? = some s.tokens[i] := Array.getElem?_eq_getElem hi
    have htj : s.tokens[j]? = some s.tokens[j] := Array.getElem?_eq_getElem hj
    have hni : i ∉ s.opened := by simp [ho]
    refine ⟨hs.ordered i j _ _ hij hti htj, ?_⟩
    exact (hs.closed i j _ _ hij hni hti htj).imp_right fun hc => ⟨hc.1, hc.2.1⟩
  · intro t ht
    obtain ⟨i, hi⟩ := Array.mem_iff_getElem?.1 ht
    have hf : s.frontier = s.position := by rw [Lexer.frontier, hm]
    have := hs.within i t hi
    omega

namespace Cursor

variable {c : Cursor} {i j k : Nat} {t u : Token}

theorem nests (hc : c.tokens.toList.Pairwise Token.Nests) (hij : i < j)
    (hi : c.tokens[i]? = some t) (hj : c.tokens[j]? = some u) : t.Nests u := by
  obtain ⟨hil, rfl⟩ := Array.getElem?_eq_some_iff.1 hi
  obtain ⟨hjl, rfl⟩ := Array.getElem?_eq_some_iff.1 hj
  exact List.pairwise_iff_getElem.1 hc i j hil hjl hij

theorem lt_of_start_lt (hc : c.tokens.toList.Pairwise Token.Nests) (hi : c.tokens[i]? = some t)
    (hj : c.tokens[j]? = some u) (h : t.start < u.start) : i < j := by
  rcases Nat.lt_trichotomy i j with hij | rfl | hji
  · exact hij
  · cases hi.symm.trans hj
    omega
  · have := (nests hc hji hj hi).1
    omega

/-! ## Walks over nested tokens -/

/-- A walk from a value, begun behind it, ends at the first token that begins behind the value. -/
theorem skipFrom_stop (hc : c.tokens.toList.Pairwise Token.Nests) (hk : c.tokens[k]? = some t)
    (hi : k < i) :
    (∀ j u, i ≤ j → j < c.skipFrom t.stop i → c.tokens[j]? = some u → u.start < t.stop) ∧
      ∀ u, c.tokens[c.skipFrom t.stop i]? = some u → t.stop ≤ u.start := by
  generalize hb : t.stop = boundary
  fun_induction c.skipFrom boundary i with
  | case1 boundary i h hs ih =>
    have hn := (nests hc hi hk (Array.getElem?_eq_getElem h)).2
    have hmax : t.stop = max boundary c.tokens[i].stop := by omega
    obtain ⟨hbefore, hbehind⟩ := ih (by omega) hmax
    rw [← hmax] at hbefore hbehind
    rw [← hmax, ← hb]
    refine ⟨fun j u hij hj hu => ?_, hbehind⟩
    rcases Nat.eq_or_lt_of_le hij with rfl | hij
    · cases (Array.getElem?_eq_getElem h).symm.trans hu
      omega
    · exact hbefore j u hij hj hu
  | case2 boundary i h hs =>
    refine ⟨fun j u hij hj => by omega, fun u hu => ?_⟩
    cases (Array.getElem?_eq_getElem h).symm.trans hu
    omega
  | case3 boundary i h =>
    refine ⟨fun j u hij hj => by omega, fun u hu => ?_⟩
    exact absurd (Array.getElem?_eq_some_iff.1 hu).1 h

/-! ## Places of a search -/

/-- The places where a search among the members of an object looks for its key. -/
inductive Visits (c : Cursor) (object : Nat) : Nat → Prop where
  | first : c.Visits object (object + 1)
  | next {i : Nat} : c.Visits object i → c.Visits object (c.skip (i + 1))

/-- What is found stands behind its key, at a place where the search looks for it. -/
theorem exists_visits_of_findFrom {object limit v : Nat} {key : List UInt8}
    (hv : c.Visits object i) (h : c.findFrom limit key i = some v) :
    ∃ k t u, v = k + 1 ∧ c.Visits object k ∧ c.isString k key ∧ c.tokens[k]? = some t ∧
      c.tokens[v]? = some u ∧ t.start < limit ∧ u.start < limit := by
  fun_induction c.findFrom limit key i with
  | case1 i hi hs hkey =>
    cases h
    rw [Bool.and_eq_true] at hkey
    obtain ⟨u, hu, hlt⟩ := (Option.any_eq_true _ _).1 hkey.2
    exact ⟨i, _, u, rfl, hv, hkey.1, Array.getElem?_eq_getElem hi, hu, hs, by simpa using hlt⟩
  | case2 i hi hs hkey _ ih => exact ih hv.next h
  | case3 => cases h
  | case4 => cases h

/-- The walk to a token gets past the place before it. -/
theorem exists_next_lt (ht : c.tokens[c.skip (i + 1)]? = some t) :
    ∃ w, c.tokens[i]? = some w ∧ i < c.skip (i + 1) := by
  by_cases hi : i < c.tokens.size
  · exact ⟨_, Array.getElem?_eq_getElem hi, c.lt_skip_succ hi⟩
  · have hnone : c.tokens[i + 1]? = none := Array.getElem?_eq_none (by omega)
    rw [skip, hnone] at ht
    exact absurd (Array.getElem?_eq_some_iff.1 ht).1 (Nat.lt_irrefl _)

/-- What is passed by a walk ends before the walk does. -/
theorem stop_le_of_lt_skip (hc : c.tokens.toList.Pairwise Token.Nests)
    (ht : c.tokens[c.skip i]? = some t) (hu : c.tokens[j]? = some u) (hij : i ≤ j)
    (hj : j < c.skip i) : u.stop ≤ t.start := by
  have hi : i < c.tokens.size := Nat.lt_of_le_of_lt hij (Array.getElem?_eq_some_iff.1 hu).1
  have hw := Array.getElem?_eq_getElem hi
  have hskip : c.skip i = c.skipFrom c.tokens[i].stop (i + 1) := by rw [skip, hw]
  rw [hskip] at ht hj
  obtain ⟨hbefore, hbehind⟩ := skipFrom_stop hc hw (Nat.lt_succ_self i)
  have hle := hbehind t ht
  rcases Nat.eq_or_lt_of_le hij with rfl | hij
  · cases hw.symm.trans hu
    exact hle
  · have := hbefore j u hij hj hu
    have := (nests hc hij hw hu).2
    omega

namespace Visits

variable {object x : Nat} {w : Token}

/-- A search goes behind its object. -/
theorem lt (hv : c.Visits object k) (hk : c.tokens[k]? = some t) : object < k := by
  induction hv generalizing t with
  | first => exact Nat.lt_succ_self _
  | @next i hv ih =>
    obtain ⟨w, hw, hlt⟩ := exists_next_lt hk
    exact Nat.lt_trans (ih hw) hlt

/-- Only where a search looks for a key, it gets into a token. -/
theorem of_start_lt_stop (hc : c.tokens.toList.Pairwise Token.Nests) (hv : c.Visits object k)
    (hk : c.tokens[k]? = some t) (hx : c.tokens[x]? = some w) (hobject : object < x) (hlt : x < k)
    (hw : t.start < w.stop) : c.Visits object x := by
  induction hv generalizing t with
  | first => omega
  | @next i hv ih =>
    obtain ⟨t', ht', hi⟩ := exists_next_lt hk
    rcases Nat.lt_trichotomy x i with hxi | rfl | hix
    · have := (nests hc hi ht' hk).1
      exact ih ht' hxi (by omega)
    · exact hv
    · have := stop_le_of_lt_skip hc hk hx hix hlt
      omega

end Visits

theorem kind_of_isString {key : List UInt8} (h : c.isString k key) (ht : c.tokens[k]? = some t) :
    t.kind = .string := by
  rw [isString, kind?, ht, Bool.and_eq_true] at h
  simpa using h.1

/-- The string at the index is the key and the token behind it its value, and both begin inside the
object. -/
def IsMember (c : Cursor) (object : Nat) (key : List UInt8) (k : Nat) : Prop :=
  c.isString k key ∧ ∃ owner t u, c.tokens[object]? = some owner ∧ c.tokens[k]? = some t ∧
    c.tokens[k + 1]? = some u ∧ owner.Holds t ∧ owner.Holds u

/-- The token at `x` is a container inside the object, and the token at `i` begins inside it. -/
def Separates (c : Cursor) (object x i : Nat) : Prop :=
  ∃ owner w t, c.tokens[object]? = some owner ∧ c.tokens[x]? = some w ∧ c.tokens[i]? = some t ∧
    w.kind.isContainer ∧ owner.Holds w ∧ w.Holds t

/-- What is found for a key stands behind a string that is written so, and no container stands
between it and the object, unless the search looked for a key at that container. -/
theorem find?_isMember {capacity : Nat} {text : List UInt8} {tokens : Array Token}
    (h : tokenize capacity text = .ok tokens) {object v : Nat} {key : String}
    (hf : Cursor.find? ⟨text.toArray, tokens⟩ object key = some v) :
    ∃ k, v = k + 1 ∧ Cursor.IsMember ⟨text.toArray, tokens⟩ object key.toUTF8.toList k ∧
      ∀ x, Cursor.Separates ⟨text.toArray, tokens⟩ object x k ∨
          Cursor.Separates ⟨text.toArray, tokens⟩ object x v →
        Cursor.Visits ⟨text.toArray, tokens⟩ object x := by
  have hc : (Cursor.mk text.toArray tokens).tokens.toList.Pairwise Token.Nests :=
    (nested_of_tokenize h).1
  generalize Cursor.mk text.toArray tokens = c at hc hf ⊢
  unfold find? at hf
  split at hf
  case h_2 => cases hf
  case h_1 owner howner =>
    split at hf
    case isFalse => cases hf
    case isTrue =>
      obtain ⟨k, t, u, rfl, hv, hkey, ht, hu, htl, hul⟩ := exists_visits_of_findFrom .first hf
      have hk := hv.lt ht
      have hot := (nests hc hk howner ht).1
      have hou := (nests hc (Nat.lt_succ_of_lt hk) howner hu).1
      have htu := (nests hc (Nat.lt_succ_self k) ht hu).1
      refine ⟨k, rfl, ⟨hkey, owner, t, u, howner, ht, hu, ⟨hot, htl⟩, ⟨hou, hul⟩⟩, ?_⟩
      rintro x (⟨owner', w, t', ho', hx, ht', hw, ⟨how, -⟩, ⟨hwt, htw⟩⟩ |
        ⟨owner', w, u', ho', hx, hu', hw, ⟨how, -⟩, ⟨hwu, huw⟩⟩)
      · cases howner.symm.trans ho'
        cases ht.symm.trans ht'
        exact hv.of_start_lt_stop hc ht hx (lt_of_start_lt hc howner hx how)
          (lt_of_start_lt hc hx ht hwt) htw
      · cases howner.symm.trans ho'
        cases hu.symm.trans hu'
        have hxk : x < k := by
          refine Nat.lt_of_le_of_ne (Nat.le_of_lt_succ (lt_of_start_lt hc hx hu hwu)) ?_
          rintro rfl
          rw [kind_of_isString hkey hx] at hw
          cases hw
        exact hv.of_start_lt_stop hc ht hx (lt_of_start_lt hc howner hx how) hxk (by omega)

/-- The text `{"a","b":["c","d","e"]}`, where the key `a` has no value. -/
def unpaired : List UInt8 := "\x7b\"a\",\"b\":[\"c\",\"d\",\"e\"]\x7d".toUTF8.toList

def unpairedTokens : Array Token := #[
  ⟨.object, 0, 23, 2, none⟩, ⟨.string, 2, 3, 0, some 0⟩, ⟨.string, 6, 7, 1, some 0⟩,
  ⟨.array, 9, 22, 3, some 2⟩, ⟨.string, 11, 12, 0, some 3⟩, ⟨.string, 15, 16, 0, some 3⟩,
  ⟨.string, 19, 20, 0, some 3⟩]

theorem tokenize_unpaired : tokenize 7 unpaired = .ok unpairedTokens := by
  decide +kernel

/-- The key `b` is taken for the value of `a`, and then the array for a key. -/
theorem find?_unpaired : Cursor.find? ⟨unpaired.toArray, unpairedTokens⟩ 0 "d" = some 6 := by
  decide +kernel

theorem find?_isMember_unpaired :
    tokenize 7 unpaired = .ok unpairedTokens ∧
      Cursor.find? ⟨unpaired.toArray, unpairedTokens⟩ 0 "d" = some 6 ∧
        Cursor.IsMember ⟨unpaired.toArray, unpairedTokens⟩ 0 "d".toUTF8.toList 5 ∧
          Cursor.Visits ⟨unpaired.toArray, unpairedTokens⟩ 0 3 := by
  obtain ⟨k, hk, hm, hv⟩ := find?_isMember tokenize_unpaired find?_unpaired
  obtain rfl : k = 5 := by omega
  have hs : Cursor.Separates ⟨unpaired.toArray, unpairedTokens⟩ 0 3 5 :=
    ⟨_, _, _, rfl, rfl, rfl, rfl, by decide, by decide⟩
  exact ⟨tokenize_unpaired, find?_unpaired, hm, hv 3 (.inl hs)⟩

/-- Not everything that is found is a direct member. -/
theorem not_forall_find?_direct :
    ¬ ∀ (capacity : Nat) (text : List UInt8) (tokens : Array Token) (object v : Nat) (key : String),
      tokenize capacity text = .ok tokens →
        Cursor.find? ⟨text.toArray, tokens⟩ object key = some v →
          ∃ k, v = k + 1 ∧ Cursor.IsMember ⟨text.toArray, tokens⟩ object key.toUTF8.toList k ∧
            ∀ x, ¬ Cursor.Separates ⟨text.toArray, tokens⟩ object x k ∧
              ¬ Cursor.Separates ⟨text.toArray, tokens⟩ object x v := by
  intro hall
  obtain ⟨k, hk, -, hs⟩ := hall 7 unpaired unpairedTokens 0 6 "d" tokenize_unpaired find?_unpaired
  exact (hs 3).2 ⟨_, _, _, rfl, rfl, rfl, rfl, by decide, by decide⟩

end Cursor

end ChatLink.Json
