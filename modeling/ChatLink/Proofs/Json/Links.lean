import ChatLink.Json.Links
import ChatLink.Proofs.Json.Nesting
import Mathlib.Logic.Relation

/-!
# Links between tokens

Every token but the roots names an earlier one from which it hangs, and every token counts those
that name it. A colon makes any token an anchor, also one inside a container that is closed, so that
links need not lead from a token to the container around it in one step. But all containers that are
open stay on the way from the anchor and on the way from the newest token (`Lexer.Linked`), and so a
token hangs, in some number of steps, from every container whose brackets stand around it.

On that way the innermost open container comes first (`Lexer.unclosed?_eq_head?`). So whoever
follows links where a bracket closes finds what the lexer keeps in its list, in every text
(`tokenizeLinked_eq`).
-/

namespace ChatLink.Json

/-- From which tokens the tokens hang. -/
def parents (tokens : Array Token) : List (Option Nat) := tokens.toList.map (·.parent)

/-- The token `j` names the token `i` as the one from which it hangs. -/
def Hangs (tokens : Array Token) (j i : Nat) : Prop := (parents tokens)[j]? = some (some i)

/-- Links lead from the token `j` to the token `i`, in some number of steps or none. -/
def Under (tokens : Array Token) : Nat → Nat → Prop := Relation.ReflTransGen (Hangs tokens)

variable {tokens tokens' : Array Token} {i j k : Nat} {t u : Token}

theorem getElem?_parents (tokens : Array Token) (i : Nat) :
    (parents tokens)[i]? = tokens[i]?.map (·.parent) := by
  rw [parents, List.getElem?_map, Array.getElem?_toList]

theorem length_parents (tokens : Array Token) : (parents tokens).length = tokens.size := by
  rw [parents, List.length_map, Array.length_toList]

theorem hangs_iff (ht : tokens[j]? = some t) : Hangs tokens j i ↔ t.parent = some i := by
  rw [Hangs, getElem?_parents, ht, Option.map_some, Option.some_inj]

theorem Hangs.lt_size (h : Hangs tokens j i) : j < tokens.size := by
  rw [← length_parents]
  exact (List.getElem?_eq_some_iff.1 h).1

/-- A token hangs from one other at most. -/
theorem Hangs.unique (h : Hangs tokens j i) (h' : Hangs tokens j k) : i = k :=
  Option.some.inj (Option.some.inj (h.symm.trans h'))

/-- Links stay what they are when more tokens come. -/
theorem Under.of_isPrefix (h : Under tokens j i) (hp : parents tokens <+: parents tokens') :
    Under tokens' j i := by
  refine Relation.ReflTransGen.mono (fun a b hab => ?_) _ _ h
  obtain ⟨more, hmore⟩ := hp
  have hlt := (List.getElem?_eq_some_iff.1 hab).1
  rw [Hangs, ← hmore, List.getElem?_append_left hlt]
  exact hab

/-- The first link of a way that leads further. -/
theorem Under.exists_hangs (h : Under tokens j i) (hne : j ≠ i) :
    ∃ k, Hangs tokens j k ∧ Under tokens k i :=
  (Relation.ReflTransGen.cases_head h).resolve_left hne

/-- Links lead back. -/
theorem Under.le (h : Under tokens j i) (hback : ∀ j i, Hangs tokens j i → i < j) : i ≤ j := by
  induction h with
  | refl => exact Nat.le_refl j
  | tail _ hlink ih => exact Nat.le_trans (Nat.le_of_lt (hback _ _ hlink)) ih

/-- There is only one way. -/
theorem Under.total (h : Under tokens k i) (h' : Under tokens k j) :
    Under tokens i j ∨ Under tokens j i :=
  Relation.ReflTransGen.total_of_right_unique (fun _ _ _ hi hj => hi.unique hj) h h'

namespace Lexer

variable {capacity : Nat} {s s' : Lexer}

theorem parents_hung (s : Lexer) (kind : Kind) (start stop : Nat) :
    parents (s.hung kind start stop) = parents s.tokens ++ [s.anchor] := by
  have hpush : parents (s.tokens.push ⟨kind, start, stop, 0, s.anchor⟩) =
      parents s.tokens ++ [s.anchor] := by
    simp [parents]
  refine List.ext_getElem? fun i => ?_
  rw [← hpush, getElem?_parents, getElem?_parents, getElem?_hung, Option.map_map]
  congr 1
  funext t
  simp only [Function.comp_apply]
  split <;> rfl

theorem parents_modify (tokens : Array Token) (i stop : Nat) :
    parents (tokens.modify i fun t => { t with stop := stop }) = parents tokens := by
  refine List.ext_getElem? fun j => ?_
  rw [getElem?_parents, getElem?_parents, Array.getElem?_modify]
  split
  · rw [Option.map_map]
    rfl
  · rfl

/-- What is said of links while a text is read. -/
structure Linked (s : Lexer) : Prop where
  unclosed_iff : ∀ (i : Nat) (t : Token), s.tokens[i]? = some t →
    (t.isUnclosed = true ↔ i ∈ s.opened)
  back : ∀ j i, Hangs s.tokens j i → i < j
  anchored : ∀ a ∈ s.anchor, a < s.tokens.size
  counted : ∀ (i : Nat) (t : Token), s.tokens[i]? = some t →
    t.size = (parents s.tokens).count (some i)
  /-- All open containers are on the way from the anchor, -/
  chained : ∀ i ∈ s.opened, ∃ a ∈ s.anchor, Under s.tokens a i
  /-- and on the way from the newest token. -/
  newest : ∀ i ∈ s.opened, Under s.tokens (s.tokens.size - 1) i
  holds : ∀ (i j : Nat) (t u : Token), i < j → s.tokens[i]? = some t → s.tokens[j]? = some u →
    t.kind.isContainer → (i ∈ s.opened ∨ u.start < t.stop) → Under s.tokens j i

theorem linked_initial : initial.Linked where
  unclosed_iff := by simp [initial]
  back := by simp [Hangs, parents, initial]
  anchored := by simp [initial]
  counted := by simp [initial]
  chained := by simp [initial]
  newest := by simp [initial]
  holds := by simp [initial]

namespace Linked

/-- It is said of the tokens, the anchor and the open containers. -/
theorem congr (h : s.Linked) (ht : s'.tokens = s.tokens) (ho : s'.opened = s.opened)
    (hanchored : ∀ a ∈ s'.anchor, a < s.tokens.size)
    (hchained : ∀ i ∈ s.opened, ∃ a ∈ s'.anchor, Under s.tokens a i) : s'.Linked := by
  obtain ⟨position, tokens, anchor, opened, mode⟩ := s'
  obtain rfl : tokens = s.tokens := ht
  obtain rfl : opened = s.opened := ho
  exact ⟨h.unclosed_iff, h.back, hanchored, h.counted, hchained, h.newest, h.holds⟩

theorem pass (h : s.Linked) (ht : s'.tokens = s.tokens) (ho : s'.opened = s.opened)
    (ha : s'.anchor = s.anchor) : s'.Linked :=
  h.congr ht ho (ha ▸ h.anchored) (ha ▸ h.chained)

/-- The newest token becomes the anchor. -/
theorem colon (h : s.Linked) (hn : s.Nested) : s.awaitValue.Linked := by
  have hnewest : ∀ i ∈ s.opened, s.awaitValue.anchor = some (s.tokens.size - 1) := by
    intro i hi
    have hsize : s.tokens.isEmpty = false := by
      rw [Array.isEmpty_eq_false_iff_exists_mem]
      exact ⟨_, Array.getElem_mem (hn.listed i hi)⟩
    rw [awaitValue, hsize]
    rfl
  refine h.congr rfl rfl (fun a ha => ?_) fun i hi => ⟨_, hnewest i hi, h.newest i hi⟩
  unfold awaitValue at ha
  dsimp only at ha
  split at ha
  · cases ha
  · next hempty =>
    obtain rfl := Option.some.inj ha
    have : s.tokens.size ≠ 0 := by simpa [Array.isEmpty_iff_size_eq_zero] using hempty
    omega

/-- The anchor may go back to its parent, as long as it is no container. -/
theorem comma (h : s.Linked) (hn : s.Nested) : s.nextMember.Linked := by
  unfold nextMember holder
  split
  · next t ht =>
    obtain ⟨a, ha, ht⟩ := Option.bind_eq_some_iff.1 ht
    split
    · exact h
    · next hkind =>
      refine h.congr rfl rfl (fun p hp => ?_) fun i hi => ?_
      · have hlink := (hangs_iff ht).2 hp
        have := h.back a p hlink
        have := h.anchored a ha
        omega
      · obtain ⟨a', ha', hunder⟩ := h.chained i hi
        obtain rfl := Option.some.inj (ha.symm.trans ha')
        have hne : a ≠ i := by
          rintro rfl
          exact hkind (hn.container a t hi ht)
        obtain ⟨k, hlink, hk⟩ := hunder.exists_hangs hne
        exact ⟨k, (hangs_iff ht).1 hlink, hk⟩
  · exact h

section Hang

variable {kind : Kind} {start stop : Nat}

theorem isPrefix_parents_hung (s : Lexer) :
    parents s.tokens <+: parents (s.hung kind start stop) := by
  rw [parents_hung]
  exact List.prefix_append _ _

/-- The open containers are on the way from a token that is hung. -/
theorem under_size (h : s.Linked) (hi : i ∈ s.opened) :
    Under (s.hung kind start stop) s.tokens.size i := by
  obtain ⟨a, ha, hunder⟩ := h.chained i hi
  refine .head ?_ (hunder.of_isPrefix (isPrefix_parents_hung s))
  rw [Hangs, parents_hung, List.getElem?_append_right (by rw [length_parents]), length_parents,
    Nat.sub_self, ha]
  rfl

theorem back_hung (h : s.Linked) : ∀ j i, Hangs (s.hung kind start stop) j i → i < j := by
  intro j i hlink
  have hlt := hlink.lt_size
  rw [size_hung] at hlt
  rw [Hangs, parents_hung, List.getElem?_append, length_parents] at hlink
  split at hlink
  · exact h.back j i hlink
  · obtain rfl : j = s.tokens.size := by omega
    rw [Nat.sub_self, List.getElem?_cons_zero] at hlink
    exact h.anchored i (Option.some.inj hlink)

theorem counted_hung (h : s.Linked) (ht : (s.hung kind start stop)[i]? = some t) :
    t.size = (parents (s.hung kind start stop)).count (some i) := by
  rw [getElem?_hung] at ht
  obtain ⟨t', ht', rfl⟩ := Option.map_eq_some_iff.1 ht
  have hbefore : t'.size = (parents s.tokens).count (some i) := by
    rw [Array.getElem?_push] at ht'
    split at ht'
    · next hi =>
      -- nothing hangs from a token before it is there
      cases ht'
      refine (List.count_eq_zero.2 fun hmem => ?_).symm
      obtain ⟨j, hlink⟩ := List.mem_iff_getElem?.1 hmem
      have hlt := Hangs.lt_size hlink
      have := h.back j i hlink
      omega
    · exact h.counted i t' ht'
  rw [parents_hung, List.count_append, ← hbefore, List.count_singleton]
  by_cases ha : s.anchor = some i
  · simp [ha]
  · simp [ha]

/-- A new token hangs from the anchor. -/
theorem hang (h : s.Linked) (hn : s.Nested) (ht : s'.tokens = s.hung kind start stop)
    (hstart : s.frontier ≤ start)
    (hnew : (s'.opened = s.opened ∧ s'.anchor = s.anchor ∧ kind.isContainer = false) ∨
      (s'.opened = s.tokens.size :: s.opened ∧ s'.anchor = some s.tokens.size ∧
        kind.isContainer = true ∧ stop = start)) : s'.Linked := by
  have hprefix : parents s.tokens <+: parents (s.hung kind start stop) := isPrefix_parents_hung s
  have hopened : ∀ i ∈ s'.opened, i ∈ s.opened ∨
      i = s.tokens.size ∧ s'.anchor = some s.tokens.size := by
    rcases hnew with ⟨ho, -⟩ | ⟨ho, ha, -⟩
    · exact fun i hi => .inl (ho ▸ hi)
    · intro i hi
      exact (List.mem_cons.1 (ho ▸ hi)).symm.imp_right fun hi => ⟨hi, ha⟩
  have hold : ∀ i, i < s.tokens.size → (i ∈ s'.opened ↔ i ∈ s.opened) := by
    intro i hi
    rcases hnew with ⟨ho, -⟩ | ⟨ho, -⟩
    · rw [ho]
    · rw [ho, List.mem_cons, or_iff_right (by omega)]
  constructor
  case unclosed_iff =>
    rw [ht]
    intro i t hi
    rcases span_of_getElem?_hung hi with ⟨t', ht', hk, hs, he⟩ | ⟨rfl, hk, hs, he⟩
    · rw [hold i (Array.getElem?_eq_some_iff.1 ht').1, ← h.unclosed_iff i t' ht', Token.isUnclosed,
        hk, hs, he, Token.isUnclosed]
    · rcases hnew with ⟨ho, -, hc⟩ | ⟨ho, -, hc, hstop⟩
      · refine iff_of_false (by simp [Token.isUnclosed, hk, hc]) fun hmem => ?_
        exact absurd (hn.listed _ (ho ▸ hmem)) (Nat.lt_irrefl _)
      · exact iff_of_true (by simp [Token.isUnclosed, hk, hc, hs, he, hstop]) (by simp [ho])
  case back => exact ht ▸ h.back_hung
  case anchored =>
    rw [ht, size_hung]
    intro a ha
    rcases hnew with ⟨-, ha', -⟩ | ⟨-, ha', -⟩
    · exact Nat.lt_succ_of_lt (h.anchored a (ha' ▸ ha))
    · obtain rfl := Option.some.inj (ha'.symm.trans ha)
      exact Nat.lt_succ_self _
  case counted =>
    rw [ht]
    exact fun i t hi => h.counted_hung hi
  case chained =>
    rw [ht]
    intro i hi
    rcases hnew with ⟨ho, ha, -⟩ | ⟨-, ha, -⟩
    · obtain ⟨a, ha', hunder⟩ := h.chained i (ho ▸ hi)
      exact ⟨a, ha.trans ha', hunder.of_isPrefix hprefix⟩
    · refine ⟨_, ha, ?_⟩
      rcases hopened i hi with hi | ⟨rfl, -⟩
      · exact h.under_size hi
      · exact .refl
  case newest =>
    rw [ht, size_hung, Nat.add_sub_cancel]
    intro i hi
    rcases hopened i hi with hi | ⟨rfl, -⟩
    · exact h.under_size hi
    · exact .refl
  case holds =>
    rw [ht]
    intro i j t u hij hi hj hk hinside
    have hlt := (Array.getElem?_eq_some_iff.1 hj).1
    rw [size_hung] at hlt
    rcases span_of_getElem?_hung hi with ⟨t', ht', hkt, -, het⟩ | ⟨rfl, -⟩
    · rw [hold i (by omega), het] at hinside
      rcases span_of_getElem?_hung hj with ⟨u', hu', -, hsu, -⟩ | ⟨rfl, -, hsu, -⟩
      · rw [hsu] at hinside
        exact (h.holds i j t' u' hij ht' hu' (hkt ▸ hk) hinside).of_isPrefix hprefix
      · -- what is closed ends before a new token begins
        have := (hn.within i t' ht').2.2
        exact h.under_size (hinside.resolve_right (by omega))
    · omega

end Hang

/-- The innermost container is closed. -/
theorem close (h : s.Linked) (hn : s.Nested) {outer : List Nat} {stop : Nat}
    (ho : s.opened = i :: outer) (ht : s.tokens[i]? = some t) (hstop : t.start < stop)
    (ht' : s'.tokens = s.tokens.modify i fun t => { t with stop := stop })
    (ha : s'.anchor = t.parent) (ho' : s'.opened = outer) : s'.Linked := by
  have hparents : parents s'.tokens = parents s.tokens := by rw [ht', parents_modify]
  have hhangs : Hangs s'.tokens = Hangs s.tokens := by
    funext j i
    rw [Hangs, Hangs, hparents]
  have hunder : Under s'.tokens = Under s.tokens := by rw [Under, Under, hhangs]
  have hsize : s'.tokens.size = s.tokens.size := by rw [ht', Array.size_modify]
  have hinner := hn.inner
  rw [ho, List.pairwise_cons] at hinner
  have hopened : ∀ j, j ∈ s'.opened → j ∈ s.opened := fun j hj =>
    ho ▸ List.mem_cons_of_mem _ (ho' ▸ hj)
  constructor
  case unclosed_iff =>
    rw [ht']
    intro j u hj
    rcases getElem?_closed ht hj with ⟨hne, hj⟩ | ⟨rfl, rfl⟩
    · rw [h.unclosed_iff j u hj, ho, ho', List.mem_cons, or_iff_right hne]
    · refine iff_of_false ?_ fun hmem => ?_
      · simp [Token.isUnclosed, Nat.ne_of_gt hstop]
      · exact absurd (hinner.1 j (ho' ▸ hmem)) (Nat.lt_irrefl _)
  case back => exact hhangs ▸ h.back
  case anchored =>
    intro a hmem
    have := h.back i a ((hangs_iff ht).2 (ha ▸ hmem))
    have := (Array.getElem?_eq_some_iff.1 ht).1
    omega
  case counted =>
    rw [hparents, ht']
    intro j u hj
    rcases getElem?_closed ht hj with ⟨-, hj⟩ | ⟨rfl, rfl⟩
    · exact h.counted j u hj
    · exact h.counted j t ht
  case chained =>
    rw [hunder, ha]
    intro o hmem
    have hlt : o < i := hinner.1 o (ho' ▸ hmem)
    -- the container that is closed and the one around it are both on the way from the anchor
    obtain ⟨a, hanchor, hi⟩ := h.chained i (ho ▸ List.mem_cons_self)
    obtain ⟨a', hanchor', hout⟩ := h.chained o (hopened o hmem)
    obtain rfl := Option.some.inj (hanchor.symm.trans hanchor')
    have hway : Under s.tokens i o := by
      refine (hi.total hout).resolve_right fun hwrong => ?_
      have := hwrong.le h.back
      omega
    obtain ⟨k, hlink, hk⟩ := hway.exists_hangs (Nat.ne_of_gt hlt)
    exact ⟨k, (hangs_iff ht).1 hlink, hk⟩
  case newest =>
    rw [hunder, hsize]
    exact fun j hj => h.newest j (hopened j hj)
  case holds =>
    rw [hunder, ht']
    intro a b ta tb hab hta htb hk hinside
    have hb : ∃ tb', s.tokens[b]? = some tb' ∧ tb'.start = tb.start := by
      rcases getElem?_closed ht htb with ⟨-, htb⟩ | ⟨rfl, rfl⟩
      · exact ⟨tb, htb, rfl⟩
      · exact ⟨t, ht, rfl⟩
    obtain ⟨tb', htb', hstart⟩ := hb
    rcases getElem?_closed ht hta with ⟨-, hta⟩ | ⟨rfl, rfl⟩
    · exact h.holds a b ta tb' hab hta htb' hk (hinside.imp (hopened a) (hstart ▸ ·))
    · exact h.holds a b t tb' hab ht htb' hk (.inl (ho ▸ List.mem_cons_self))

/-- Everything that can happen leaves the tokens linked. -/
theorem reads {bytes : List UInt8} (h : s.Linked) (hn : s.Nested)
    (hr : Reads capacity s bytes s') : s'.Linked := by
  cases hr with
  | blank | quote | plain | backslash | short | unicode | digit | literal | more =>
    exact h.pass rfl rfl rfl
  | colon => exact (h.colon hn).pass rfl rfl rfl
  | comma => exact (h.comma hn).pass rfl rfl rfl
  | opening hm hb =>
    have hf : s.frontier = s.position := by rw [frontier, hm]
    exact h.hang hn rfl (Nat.le_of_eq hf) (.inr ⟨rfl, rfl, isContainer_of_opening hb, rfl⟩)
  | closing hm _ ho ht =>
    have := (hn.within _ _ ht).1
    have := hn.frontier_le
    exact h.close hn ho ht (by omega) rfl rfl rfl
  | unquote hm =>
    exact h.hang hn rfl (by rw [frontier, hm]) (.inl ⟨rfl, rfl, rfl⟩)
  | ended hm =>
    exact h.hang hn rfl (by rw [frontier, hm]) (.inl ⟨rfl, rfl, rfl⟩)

end Linked

/-! ## Following links -/

/-- On the way from a token from which all open containers can be reached, the innermost of them
comes first. -/
theorem unclosed?_eq_head? (h : s.Linked) (hn : s.Nested) (hj : j < s.tokens.size)
    (hunder : ∀ i ∈ s.opened, Under s.tokens j i) :
    unclosed? s.tokens j = s.opened.head? := by
  induction j using Nat.strong_induction_on with
  | h j ih =>
    have ht := Array.getElem?_eq_getElem hj
    generalize s.tokens[j] = t at ht
    rw [unclosed?, ht]
    dsimp only
    split
    · next hu =>
      have hopen := (h.unclosed_iff j t ht).1 hu
      have hinner := hn.inner
      rcases ho : s.opened with _ | ⟨i, outer⟩
      · rw [ho] at hopen
        exact absurd hopen List.not_mem_nil
      · rw [ho] at hinner hopen
        have hle := (hunder i (by simp [ho])).le h.back
        rcases List.mem_cons.1 hopen with rfl | hmem
        · rfl
        · have := (List.pairwise_cons.1 hinner).1 j hmem
          omega
    · next hu =>
      -- the token is closed, so every way to an open container takes its link
      have hstep : ∀ i ∈ s.opened, ∃ k, t.parent = some k ∧ Under s.tokens k i := by
        intro i hi
        have hne : j ≠ i := by
          rintro rfl
          exact hu ((h.unclosed_iff j t ht).2 hi)
        obtain ⟨k, hlink, hk⟩ := (hunder i hi).exists_hangs hne
        exact ⟨k, (hangs_iff ht).1 hlink, hk⟩
      cases hp : t.parent with
      | none =>
        rcases ho : s.opened with _ | ⟨i, outer⟩
        · rfl
        · obtain ⟨k, hk, -⟩ := hstep i (by simp [ho])
          cases hp.symm.trans hk
      | some p =>
        have hlt := h.back j p ((hangs_iff ht).2 hp)
        dsimp only
        rw [if_pos hlt]
        refine ih p hlt (Nat.lt_trans hlt hj) fun i hi => ?_
        obtain ⟨k, hk, hunder⟩ := hstep i hi
        obtain rfl := Option.some.inj (hp.symm.trans hk)
        exact hunder

theorem closeLinked_eq (h : s.Linked) (hn : s.Nested) (kind : Kind) :
    s.closeLinked kind = s.closeContainer kind := by
  have hhead : unclosed? s.tokens (s.tokens.size - 1) = s.opened.head? := by
    by_cases hsize : s.tokens.size = 0
    · have hnone : s.opened = [] :=
        List.eq_nil_iff_forall_not_mem.2 fun i hi => by
          have := hn.listed i hi
          omega
      rw [unclosed?, Array.getElem?_eq_none (by omega), hnone]
      rfl
    · exact unclosed?_eq_head? h hn (by omega) h.newest
  rw [closeLinked, closeContainer, hhead]
  cases ho : s.opened with
  | nil => rfl
  | cons i outer =>
    dsimp only [List.head?_cons]
    cases s.tokens[i]? with
    | none => rfl
    | some t =>
      dsimp only
      rw [List.erase_cons_head]

theorem completeLinked_eq (h : s.Linked) (hn : s.Nested) : s.completeLinked = s.complete := by
  have hany : s.tokens.any Token.isUnclosed = !s.opened.isEmpty := by
    rw [Bool.eq_iff_iff, Array.any_eq_true]
    constructor
    · rintro ⟨i, hi, hu⟩
      have hmem := (h.unclosed_iff i _ (Array.getElem?_eq_getElem hi)).1 hu
      simp [List.ne_nil_of_mem hmem]
    · intro ho
      obtain ⟨i, hi⟩ := List.exists_mem_of_ne_nil s.opened (by simpa using ho)
      have hlt := hn.listed i hi
      exact ⟨i, hlt, (h.unclosed_iff i _ (Array.getElem?_eq_getElem hlt)).2 hi⟩
  rw [completeLinked, complete, hany]
  cases s.opened.isEmpty <;> rfl

/-- The two invariants, which everything that can happen preserves. -/
def Sound (s : Lexer) : Prop := s.Nested ∧ s.Linked

theorem sound_initial : initial.Sound := ⟨nested_initial, linked_initial⟩

theorem Sound.reads {bytes : List UInt8} (h : s.Sound) (hr : Reads capacity s bytes s') :
    s'.Sound :=
  ⟨h.1.reads hr, h.2.reads h.1 hr⟩

theorem Sound.step {b : UInt8} (h : s.Sound) (hs : s.step capacity b = .ok s') : s'.Sound := by
  rcases reads_of_step hs with hr | ⟨m, hm, hr⟩
  · exact h.reads hr
  · exact (h.reads hm).reads hr

theorem stepLinked_eq (h : s.Sound) (b : UInt8) : s.stepLinked capacity b = s.step capacity b := by
  unfold stepLinked
  split
  · next kind hb hm => rw [closeLinked_eq h.2 h.1, Lexer.step, hm, stepBetween, hb]
  · next kind start hb hm =>
    have hends : endsPrimitive b = true := by
      have hall : ∀ b : UInt8, ∀ kind ∈ [Kind.object, .array, .string, .primitive],
          Sign.of b = .closing kind → endsPrimitive b = true := by decide +kernel
      exact hall b kind (by cases kind <;> simp) hb
    rw [Lexer.step, hm]
    dsimp only
    rw [if_pos hends]
    cases he : s.endPrimitive capacity start with
    | error fault => rfl
    | ok s' =>
      have hs' := h.reads (endPrimitive_eq_ok hm he).1
      show (do return (← s'.closeLinked kind).advance .between) = s'.stepBetween capacity b
      rw [closeLinked_eq hs'.2 hs'.1, stepBetween, hb]
  · rfl

theorem finishLinked_eq (h : s.Sound) : s.finishLinked capacity = s.finish capacity := by
  unfold finishLinked finish
  cases hm : s.mode with
  | between => exact completeLinked_eq h.2 h.1
  | primitive start =>
    dsimp only
    cases he : s.endPrimitive capacity start with
    | error fault => rfl
    | ok s' =>
      have hs' := h.reads (endPrimitive_eq_ok hm he).1
      exact completeLinked_eq hs'.2 hs'.1
  | string _ | escape _ | digits _ _ => rfl

end Lexer

/-- Closing brackets can be read by following links. -/
theorem tokenizeLinked_eq (capacity : Nat) (text : List UInt8) :
    tokenizeLinked capacity text = tokenize capacity text := by
  have hrun : ∀ (text : List UInt8) (s : Lexer), s.Sound →
      (do (← text.foldlM (Lexer.stepLinked capacity) s).finishLinked capacity) =
        (do (← s.run capacity text).finish capacity) := by
    intro text
    induction text with
    | nil => exact fun s hs => Lexer.finishLinked_eq hs
    | cons b text ih =>
      intro s hs
      rw [Lexer.run, List.foldlM_cons, List.foldlM_cons, Lexer.stepLinked_eq hs]
      cases hstep : s.step capacity b with
      | error fault => rfl
      | ok s' => exact ih s' (hs.step hstep)
  exact hrun text Lexer.initial Lexer.sound_initial

end ChatLink.Json
