import ChatLink.Proofs.Json.Later
import ChatLink.Proofs.Json.Lookup
import ChatLink.Proofs.Json.Shift

/-!
# The first container of a text

A container that comes first in an accepted text can be read by itself (`exists_tokenize_root`).
Up to its opening bracket nothing is hung (`Lexer.Passes.opens_root`), at its closing bracket
nothing is open (`Lexer.Passes.closes_root`), and the tokens that come behind leave its own where
they are. They may count below them, since a colon makes the newest token an anchor wherever it
stands, but they begin behind it.

So a search in the container's own tokens finds what a search among all tokens does
(`Cursor.Fronts.find?_eq`) : its walks end where the first token behind the container begins.
-/

namespace ChatLink.Json

/-- The tokens of a part of a text, from `offset` up to `stop`, are the first tokens of the text,
and all others begin behind that part. -/
structure Leads (inner tokens : Array Token) (offset stop : Nat) : Prop where
  moved (i : Nat) (u : Token) (h : inner[i]? = some u) :
    ∃ u', tokens[i]? = some u' ∧ u'.kind = u.kind ∧ u'.start = u.start + offset ∧
      u'.stop = u.stop + offset
  behind (i : Nat) (u : Token) (hi : inner.size ≤ i) (h : tokens[i]? = some u) : stop ≤ u.start

namespace Lexer

variable {capacity : Nat} {s s' m : Lexer} {t : Token}

theorem Later.kind_eq {i : Nat} {u : Token} (h : Later m s) (hu : m.tokens[i]? = some u)
    (ht : s.tokens[i]? = some t) : t.kind = u.kind := by
  obtain ⟨t', ht', hbecomes⟩ := h.kept i u hu
  obtain rfl := Option.some.inj (ht.symm.trans ht')
  exact hbecomes.kind_eq

/-- A string or a primitive that is hung first is no container. -/
theorem not_isContainer_of_hung {kind : Kind} {start stop : Nat} (hs : s.tokens.size = 0)
    (hm : m.tokens = s.hung kind start stop) (h : Later m s') (ht : s'.tokens[0]? = some t)
    (hk : kind.isContainer = false) : t.kind.isContainer = false := by
  have hlt : 0 < m.tokens.size := by
    rw [hm, size_hung]
    exact Nat.succ_pos _
  have hu := Array.getElem?_eq_getElem hlt
  rw [h.kind_eq hu ht]
  generalize m.tokens[0] = u at hu
  rw [hm] at hu
  rcases span_of_getElem?_hung hu with ⟨t', ht', -⟩ | ⟨-, hkind, -⟩
  · have := (Array.getElem?_eq_some_iff.1 ht').1
    omega
  · rw [hkind, hk]

/-- The step by which the first container is opened. -/
theorem opened_of_step {b : UInt8} (hn : s.Nested) (hs : s.tokens.size = 0)
    (hm : 0 < m.tokens.size) (h : s.step capacity b = .ok m) (hlater : Later m s')
    (ht : s'.tokens[0]? = some t) (hk : t.kind.isContainer) : s.mode = .between ∧ 0 ∈ m.opened := by
  rcases reads_of_step h with hr | ⟨k, hr, hr'⟩
  · cases hr with
    | comma =>
      rw [nextMember_eq] at hm
      exact absurd hs (Nat.ne_of_gt hm)
    | opening hmode => exact ⟨hmode, by simp [hs]⟩
    | closing =>
      rw [Array.size_modify] at hm
      exact absurd hs (Nat.ne_of_gt hm)
    | unquote =>
      rw [not_isContainer_of_hung hs rfl hlater ht rfl] at hk
      cases hk
    | _ => exact absurd hs (Nat.ne_of_gt hm)
  · have hlater' := (later_of_reads (hn.reads hr) hr').trans hlater
    generalize hbytes : ([] : List UInt8) = bytes at hr
    cases hr <;> cases hbytes
    rw [not_isContainer_of_hung hs rfl hlater' ht rfl] at hk
    cases hk

/-- The step by which the first container is closed. -/
theorem closed_of_reads {b : UInt8} (hn : s.Nested) (h : 0 ∈ s.opened) (h' : 0 ∉ s'.opened)
    (hr : Reads capacity s [b] s') : s'.mode = .between ∧ s'.opened = [] := by
  cases hr with
  | comma =>
    rw [nextMember_eq] at h'
    exact absurd h h'
  | opening => exact absurd (List.mem_cons_of_mem _ h) h'
  | @closing _ i outer t hm hb ho =>
    refine ⟨rfl, ?_⟩
    -- what is still open was opened before the container, and nothing was
    have hinner := hn.inner
    rw [ho] at h hinner
    obtain rfl := (List.mem_cons.1 h).resolve_right h'
    refine List.eq_nil_iff_forall_not_mem.2 fun j hj => ?_
    exact absurd ((List.pairwise_cons.1 hinner).1 j hj) (Nat.not_lt_zero j)
  | _ => exact absurd h h'

theorem closed_of_step {b : UInt8} (hn : s.Nested) (h : 0 ∈ s.opened) (h' : 0 ∉ s'.opened)
    (hs : s.step capacity b = .ok s') : s'.mode = .between ∧ s'.opened = [] := by
  rcases reads_of_step hs with hr | ⟨m, hm, hr⟩
  · exact closed_of_reads hn h h' hr
  · have hopened : m.opened = s.opened := by
      generalize hbytes : ([] : List UInt8) = bytes at hm
      cases hm <;> cases hbytes
      rfl
    exact closed_of_reads (hn.reads hm) (hopened ▸ h) h' hr

/-- A state in which nothing was hung is the initial one, but for its position. -/
theorem eq_shift_initial (hn : s.Nested) (hl : s.Linked) (hs : s.tokens.size = 0)
    (hm : s.mode = .between) : s = initial.shift s.position := by
  have hopened : s.opened = [] :=
    List.eq_nil_iff_forall_not_mem.2 fun i hi => by
      have := hn.listed i hi
      omega
  have hanchor : s.anchor = none :=
    Option.eq_none_iff_forall_not_mem.2 fun a ha => by
      have := hl.anchored a ha
      omega
  obtain ⟨position, tokens, anchor, opened, mode⟩ := s
  obtain rfl : tokens = #[] := Array.size_eq_zero_iff.1 hs
  obtain rfl : opened = [] := hopened
  obtain rfl : anchor = none := hanchor
  obtain rfl : mode = .between := hm
  simp [shift, initial, Mode.shift]

/-- The first container is opened in a state that was initial, but for its position. -/
theorem Passes.opens_root {text : List UInt8} {p q : Lexer}
    (h : Passes capacity text t.start p q s) (ho : s.opened = []) (ht : s.tokens[0]? = some t)
    (hk : t.kind.isContainer) : p = initial.shift t.start ∧ t.start + 1 < t.stop := by
  have hsize : p.tokens.size = 0 := by
    have hiff := h.later_before.lt_size_iff h.sound_before.1 ht hk
    rw [h.position_before] at hiff
    omega
  have hpos : 0 < q.tokens.size := by
    rw [h.later_behind.lt_size_iff h.sound_behind.1 ht hk, h.position_behind]
    exact Nat.lt_succ_self _
  obtain ⟨b, hstep⟩ := h.step_eq
  obtain ⟨hmode, hopen⟩ :=
    opened_of_step h.sound_before.1 hsize hpos hstep h.later_behind ht hk
  rw [h.later_behind.mem_opened_iff h.sound_behind.1 ho ht hk, h.position_behind] at hopen
  refine ⟨?_, hopen.2⟩
  have hshift := eq_shift_initial h.sound_before.1 h.sound_before.2 hsize hmode
  rwa [h.position_before] at hshift

/-- Where the first container is closed, nothing is open. -/
theorem Passes.closes_root {text : List UInt8} {n : Nat} {p q : Lexer}
    (h : Passes capacity text n p q s) (ho : s.opened = []) (ht : s.tokens[0]? = some t)
    (hk : t.kind.isContainer) (hstart : t.start < n) (hstop : t.stop = n + 1) :
    q.mode = .between ∧ q.opened = [] := by
  obtain ⟨b, hstep⟩ := h.step_eq
  refine closed_of_step h.sound_before.1 ?_ ?_ hstep
  · rw [h.later_before.mem_opened_iff h.sound_before.1 ho ht hk, h.position_before]
    omega
  · rw [h.later_behind.mem_opened_iff h.sound_behind.1 ho ht hk, h.position_behind]
    omega

theorem mode_of_shift {n : Nat} (h : (s.shift n).mode = .between) : s.mode = .between := by
  cases hm : s.mode <;> simp [shift, hm, Mode.shift] at h ⊢

theorem exists_of_shifted_eq_ok {n : Nat} {x : Except LexFault Lexer} (h : shifted n x = .ok m) :
    ∃ s, x = .ok s ∧ s.shift n = m := by
  cases x with
  | error fault => cases h
  | ok s => exact ⟨s, rfl, Except.ok.inj h⟩

/-- The tokens of a state in which nothing is open lead all that come later. -/
theorem Later.leads {n : Nat} {inner : Lexer} (h : Later m s) (hm : inner.shift n = m)
    (hmode : m.mode = .between) (ho : m.opened = []) :
    Leads inner.tokens s.tokens n m.position := by
  subst hm
  constructor
  · intro i u hu
    have hshift : (inner.shift n).tokens[i]? = some (u.shift n) := by
      rw [getElem?_shift, hu, Option.map_some]
    obtain ⟨u', hu', hbecomes⟩ := h.kept i _ hshift
    exact ⟨u', hu', hbecomes.kind_eq, hbecomes.start_eq, (hbecomes.closed (by simp [ho])).2⟩
  · intro i u hi hu
    have hadded := (h.added i u (by rwa [size_shift]) hu).1
    rwa [frontier, hmode] at hadded

end Lexer

/-- A container has its brackets. -/
theorem start_lt_stop_of_tokenize {capacity : Nat} {text : List UInt8} {tokens : Array Token}
    {t : Token} (h : tokenize capacity text = .ok tokens) (ht : t ∈ tokens)
    (hk : t.kind.isContainer) : t.start < t.stop := by
  have hle := ((nested_of_tokenize h).2 t ht).1
  obtain ⟨s, hs, -, ho, rfl⟩ := Lexer.tokenize_induction (P := fun _ s => s.Sound)
    Lexer.sound_initial (fun hs hr => hs.reads hr) h
  obtain ⟨i, hi⟩ := Array.mem_iff_getElem?.1 ht
  refine Nat.lt_of_le_of_ne hle fun heq => ?_
  have hopen := (hs.2.unclosed_iff i t hi).1 (by simp [Token.isUnclosed, hk, heq])
  simp [ho] at hopen

/-- The containers of an accepted text stay where they are when more is read. -/
theorem exists_getElem?_append {capacity i : Nat} {text more : List UInt8}
    {tokens tokens' : Array Token} {t : Token} (h : tokenize capacity text = .ok tokens)
    (h' : tokenize capacity (text ++ more) = .ok tokens') (ht : tokens[i]? = some t)
    (hk : t.kind.isContainer) :
    ∃ t', tokens'[i]? = some t' ∧ t'.kind = t.kind ∧ t'.start = t.start ∧ t'.stop = t.stop := by
  have hmem := Array.mem_of_getElem? ht
  have hlt := start_lt_stop_of_tokenize h hmem hk
  have hstop := ((nested_of_tokenize h).2 t hmem).2
  rw [← List.append_nil text] at h
  obtain ⟨m, s, hm, hlater, -, ho, rfl⟩ := Lexer.exists_later_of_tokenize h
  obtain ⟨m', s', hm', hlater', -, -, rfl⟩ := Lexer.exists_later_of_tokenize h'
  obtain rfl : m' = m := Except.ok.inj (hm'.symm.trans hm)
  obtain ⟨hsound, hposition⟩ := Lexer.sound_of_run hm
  obtain ⟨u, hu, hclosed, hkind, hstart, hstop⟩ :=
    hlater.exists_closed hsound.1 ho ht hk (by omega) (by omega)
  obtain ⟨t', ht', hbecomes⟩ := hlater'.kept i u hu
  exact ⟨t', ht', hbecomes.kind_eq.trans hkind.symm, hbecomes.start_eq.trans hstart.symm,
    (hbecomes.closed hclosed).2.trans hstop.symm⟩

/-- The first container of an accepted text, read by itself. -/
theorem exists_tokenize_root {capacity : Nat} {text : List UInt8} {tokens : Array Token} {t : Token}
    (h : tokenize capacity text = .ok tokens) (ht : tokens[0]? = some t)
    (hk : t.kind.isContainer) :
    ∃ inner, tokenize capacity (t.text text) = .ok inner ∧ 0 < inner.size ∧
      Leads inner tokens t.start t.stop := by
  have hmem := Array.mem_of_getElem? ht
  have hlt := start_lt_stop_of_tokenize h hmem hk
  have hstop := ((nested_of_tokenize h).2 t hmem).2
  obtain ⟨p, q, s, hopens, -, ho, rfl⟩ := exists_passes (n := t.start) h (by omega)
  obtain ⟨hp, hlt⟩ := hopens.opens_root ho ht hk
  obtain ⟨p', m, s', hcloses, -, ho', heq⟩ :=
    exists_passes (n := t.stop - 1) h (by omega)
  rw [← heq] at ht
  obtain ⟨hmode, hopened⟩ := hcloses.closes_root ho' ht hk (by omega) (by omega)
  -- between the two brackets, the run is one over the container by itself
  have hsplit : text.take t.stop = text.take t.start ++ t.text text := by
    rw [Token.text, ← List.take_add, Nat.add_sub_cancel' (by omega)]
  have hrun := hcloses.run_behind
  rw [Nat.sub_add_cancel (by omega), hsplit, Lexer.run_append, hopens.run_before, hp] at hrun
  replace hrun : (Lexer.initial.shift t.start).run capacity (t.text text) = .ok m := hrun
  rw [Lexer.run_shift] at hrun
  obtain ⟨inner, hinner, hshift⟩ := Lexer.exists_of_shifted_eq_ok hrun
  have hleads := hcloses.later_behind.leads hshift hmode hopened
  rw [hcloses.position_behind, Nat.sub_add_cancel (by omega), heq] at hleads
  refine ⟨inner.tokens, ?_, ?_, hleads⟩
  · subst hshift
    rw [tokenize, hinner]
    show inner.finish capacity = _
    have hnone : inner.opened = [] := hopened
    simp [Lexer.finish, Lexer.mode_of_shift hmode, Lexer.complete, hnone]
  · by_contra hne
    have := hleads.behind 0 t (Nat.not_lt.1 hne) (heq ▸ ht)
    omega

/-! ## Cursors -/

namespace Cursor

/-- The first cursor sees the part of the second one's text that begins at the offset, and nothing
else. -/
structure Fronts (d c : Cursor) (offset : Nat) : Prop where
  stands : StandsAt c.source.toList offset d.source.toList
  fits : offset + d.source.size ≤ c.source.size
  leads : Leads d.tokens c.tokens offset (offset + d.source.size)
  within (u : Token) (h : u ∈ d.tokens) : u.start ≤ u.stop ∧ u.stop ≤ d.source.size

/-- A search finds tokens. -/
theorem lt_of_findFrom {c : Cursor} {limit i j : Nat} {key : List UInt8}
    (h : c.findFrom limit key i = some j) : j < c.tokens.size := by
  fun_induction c.findFrom limit key i with
  | case1 i hi hs hkey =>
    obtain rfl := Option.some.inj h
    obtain ⟨hsome, -⟩ := (Option.any_eq_true_iff_get _ _).1 (Bool.and_eq_true_iff.1 hkey).2
    simpa using hsome
  | case2 i hi hs hkey _ ih => exact ih h
  | case3 | case4 => cases h

theorem lt_of_find? {c : Cursor} {i j : Nat} {key : String} (h : c.find? i key = some j) :
    j < c.tokens.size := by
  unfold find? at h
  split at h
  · split at h
    · exact lt_of_findFrom h
    · cases h
  · cases h

namespace Fronts

variable {c d : Cursor} {offset i : Nat}

/-- The token of the text that a token of the part is. -/
theorem exists_getElem? (h : d.Fronts c offset) (hi : i < d.tokens.size) :
    ∃ u, c.tokens[i]? = some u ∧ u.kind = d.tokens[i].kind ∧
      u.start = d.tokens[i].start + offset ∧ u.stop = d.tokens[i].stop + offset :=
  h.leads.moved i _ (Array.getElem?_eq_getElem hi)

/-- Tokens that are not seen lie behind all that is. -/
theorem le_start (h : d.Fronts c offset) {limit : Nat} (hl : limit ≤ d.source.size)
    (hi : d.tokens.size ≤ i) : ∀ u ∈ c.tokens[i]?, limit + offset ≤ u.start := by
  intro u hu
  have := h.leads.behind i u hi hu
  omega

theorem kind?_eq (h : d.Fronts c offset) (hi : i < d.tokens.size) : c.kind? i = d.kind? i := by
  obtain ⟨u, hu, hkind, -⟩ := h.exists_getElem? hi
  rw [kind?, kind?, hu, Array.getElem?_eq_getElem hi, Option.map_some, Option.map_some, hkind]

theorem raw?_eq (h : d.Fronts c offset) (hi : i < d.tokens.size) : c.raw? i = d.raw? i := by
  obtain ⟨u, hu, -, hstart, hstop⟩ := h.exists_getElem? hi
  obtain ⟨hle, hsource⟩ := h.within _ (Array.getElem_mem hi)
  have hfits := h.fits
  obtain ⟨rest, hrest⟩ := h.stands
  rw [raw?, raw?, hu, Array.getElem?_eq_getElem hi, Option.bind_some, Option.bind_some,
    if_pos (by omega), if_pos ⟨hle, hsource⟩, Array.toList_extract, Array.toList_extract,
    List.extract_eq_take_drop, List.extract_eq_take_drop, hstart, hstop, Nat.add_sub_add_right,
    Nat.add_comm _ offset, ← List.drop_drop, ← hrest,
    List.drop_append_of_le_length (by rw [Array.length_toList]; omega),
    List.take_append_of_le_length (by rw [List.length_drop, Array.length_toList]; omega)]

theorem isString_eq (h : d.Fronts c offset) (hi : i < d.tokens.size) (written : List UInt8) :
    c.isString i written = d.isString i written := by
  rw [isString, isString, h.kind?_eq hi, h.raw?_eq hi]

theorem skipFrom_eq (h : d.Fronts c offset) {boundary : Nat} (hb : boundary ≤ d.source.size) :
    c.skipFrom (boundary + offset) i = d.skipFrom boundary i := by
  fun_induction d.skipFrom boundary i with
  | case1 boundary i hi hs ih =>
    obtain ⟨u, hu, -, hstart, hstop⟩ := h.exists_getElem? hi
    have hsource := (h.within _ (Array.getElem_mem hi)).2
    rw [skipFrom_of_lt hu (by omega), hstop, Nat.add_max_add_right, ih (by omega)]
  | case2 boundary i hi hs =>
    obtain ⟨u, hu, -, hstart, -⟩ := h.exists_getElem? hi
    refine skipFrom_of_behind fun v hv => ?_
    obtain rfl := Option.some.inj (hu.symm.trans hv)
    omega
  | case3 boundary i hi => exact skipFrom_of_behind (h.le_start hb (Nat.not_lt.1 hi))

theorem skip_eq (h : d.Fronts c offset) (hi : i < d.tokens.size) : c.skip i = d.skip i := by
  obtain ⟨u, hu, -, -, hstop⟩ := h.exists_getElem? hi
  rw [skip, skip, hu, Array.getElem?_eq_getElem hi]
  dsimp only
  rw [hstop, h.skipFrom_eq (h.within _ (Array.getElem_mem hi)).2]

theorem any_start_lt_eq (h : d.Fronts c offset) {limit : Nat} (hl : limit ≤ d.source.size) :
    c.tokens[i]?.any (·.start < limit + offset) = d.tokens[i]?.any (·.start < limit) := by
  by_cases hi : i < d.tokens.size
  · obtain ⟨u, hu, -, hstart, -⟩ := h.exists_getElem? hi
    rw [hu, Array.getElem?_eq_getElem hi, Option.any_some, Option.any_some, hstart]
    exact decide_eq_decide.2 (Nat.add_lt_add_iff_right)
  · have hbehind := h.le_start hl (Nat.not_lt.1 hi)
    rw [Array.getElem?_eq_none (Nat.not_lt.1 hi)]
    cases hu : c.tokens[i]? with
    | none => rfl
    | some u => simpa using hbehind u hu

theorem findFrom_eq (h : d.Fronts c offset) {limit : Nat} (hl : limit ≤ d.source.size)
    (written : List UInt8) :
    c.findFrom (limit + offset) written i = d.findFrom limit written i := by
  fun_induction d.findFrom limit written i with
  | case1 i hi hs hkey =>
    obtain ⟨u, hu, -, hstart, -⟩ := h.exists_getElem? hi
    rw [findFrom_of_lt written hu (by omega), h.isString_eq hi, h.any_start_lt_eq hl, if_pos hkey]
  | case2 i hi hs hkey _ ih =>
    obtain ⟨u, hu, -, hstart, -⟩ := h.exists_getElem? hi
    rw [findFrom_of_lt written hu (by omega), h.isString_eq hi, h.any_start_lt_eq hl, if_neg hkey]
    by_cases hnext : i + 1 < d.tokens.size
    · rw [h.skip_eq hnext, ih]
    · -- the key comes last, and what stands behind it is not seen
      have hskip := c.lt_skip_succ (Array.getElem?_eq_some_iff.1 hu).1
      have hskip' := d.lt_skip_succ hi
      rw [findFrom_of_behind written (h.le_start hl (by omega)), findFrom_of_behind written]
      rw [Array.getElem?_eq_none (by omega)]
      simp
  | case3 i hi hs =>
    obtain ⟨u, hu, -, hstart, -⟩ := h.exists_getElem? hi
    refine findFrom_of_behind written fun v hv => ?_
    obtain rfl := Option.some.inj (hu.symm.trans hv)
    omega
  | case4 i hi => exact findFrom_of_behind written (h.le_start hl (Nat.not_lt.1 hi))

/-- A search finds the same in the part and in the text. -/
theorem find?_eq (h : d.Fronts c offset) (hi : i < d.tokens.size) (key : String) :
    c.find? i key = d.find? i key := by
  obtain ⟨u, hu, hkind, -, hstop⟩ := h.exists_getElem? hi
  rw [find?, find?, hu, Array.getElem?_eq_getElem hi]
  dsimp only
  rw [hkind, hstop, h.findFrom_eq (h.within _ (Array.getElem_mem hi)).2]

end Fronts

end Cursor

/-- What a cursor sees of the first container by itself. -/
theorem exists_fronts_root {capacity : Nat} {text : List UInt8} {tokens : Array Token} {t : Token}
    (h : tokenize capacity text = .ok tokens) (ht : tokens[0]? = some t)
    (hk : t.kind.isContainer) :
    ∃ inner, tokenize capacity (t.text text) = .ok inner ∧ 0 < inner.size ∧
      Cursor.Fronts ⟨(t.text text).toArray, inner⟩ ⟨text.toArray, tokens⟩ t.start := by
  obtain ⟨inner, hinner, hsize, hleads⟩ := exists_tokenize_root h ht hk
  obtain ⟨hle, hstop⟩ := (nested_of_tokenize h).2 t (Array.mem_of_getElem? ht)
  have hlength : (t.text text).toArray.size = t.stop - t.start := by
    rw [List.size_toArray, Token.text, List.length_take, List.length_drop]
    omega
  refine ⟨inner, hinner, hsize, ?_⟩
  constructor
  case stands => exact List.take_prefix _ _
  case fits =>
    rw [hlength, List.size_toArray]
    omega
  case leads => rwa [hlength, Nat.add_sub_cancel' hle]
  case within => exact (nested_of_tokenize hinner).2

end ChatLink.Json
