import ChatLink.Json.Cursor
import ChatLink.Proofs.Json.Span
/-!
# Members by key

Tokens have no links to what is below them, yet for the tokens of a text a search finds what a tree
would give. `Cursor.Holds` says that the nodes of a tree are the tokens from an index on, and that
the token behind them begins behind the tree. A walk from there passes exactly these nodes
(`Cursor.Holds.skip`), since they begin and end inside the tree's text
(`Tree.exists_tokens_eq_cons`). So a search goes from member to member, and finds the value of the
first one with the key (`Cursor.Spells.find?`).
-/

namespace ChatLink.Json

/-! ## Bounds of nodes -/

mutual

/-- The nodes of a value begin and end inside its text. -/
theorem Tree.bounds_tokens : ∀ (v : Tree) (start index : Nat) (parent : Option Nat),
    ∀ t ∈ v.tokens start index parent,
      start ≤ t.start ∧ t.start < start + v.bytes.length ∧ t.stop ≤ start + v.bytes.length
  | .string body, start, _, _, t, ht => by
    obtain rfl := List.mem_singleton.1 ht
    simp only [Tree.bytes, List.length_cons, List.length_append, List.length_nil]
    omega
  | .primitive literal, start, _, _, t, ht => by
    obtain rfl := List.mem_singleton.1 ht
    have : 0 < literal.bytes.length := List.length_pos_iff.2 literal.valid.ne_nil
    simp only [Tree.bytes]
    omega
  | .array inside elements, start, index, _, t, ht => by
    have hl : (Tree.array inside elements).bytes.length =
        inside.bytes.length + elements.listed.tail.length + 2 := by
      simp [Tree.bytes]; omega
    rw [Tree.tokens, List.mem_cons] at ht
    rcases ht with rfl | ht
    · simp only [hl]; omega
    · have := elements.bounds_tokens _ _ _ t ht
      omega
  | .object inside members, start, index, _, t, ht => by
    have hl : (Tree.object inside members).bytes.length =
        inside.bytes.length + members.listed.tail.length + 2 := by
      simp [Tree.bytes]; omega
    rw [Tree.tokens, List.mem_cons] at ht
    rcases ht with rfl | ht
    · simp only [hl]; omega
    · have := members.bounds_tokens _ _ _ t ht
      omega

theorem Elements.bounds_tokens : ∀ (es : Elements) (start index array : Nat),
    ∀ t ∈ es.tokens start index array,
      start ≤ t.start ∧ t.start < start + es.listed.tail.length ∧
        t.stop ≤ start + es.listed.tail.length
  | .nil, _, _, _, t, ht => by simp [Elements.tokens] at ht
  | .cons before value after rest, start, index, array, t, ht => by
    rw [Elements.tokens, List.mem_append] at ht
    simp only [Elements.listed, List.tail_cons, List.length_append]
    rcases ht with ht | ht
    · have := value.bounds_tokens _ _ _ t ht
      omega
    · have := rest.bounds_tokens _ _ _ t ht
      rw [List.length_tail] at this
      omega

theorem Members.bounds_tokens : ∀ (ms : Members) (start index object : Nat),
    ∀ t ∈ ms.tokens start index object,
      start ≤ t.start ∧ t.start < start + ms.listed.tail.length ∧
        t.stop ≤ start + ms.listed.tail.length
  | .nil, _, _, _, t, ht => by simp [Members.tokens] at ht
  | .cons before key afterKey beforeValue value after rest, start, index, object, t, ht => by
    rw [Members.tokens, List.mem_cons, List.mem_append] at ht
    simp only [Members.listed, List.tail_cons, List.length_append, List.length_cons]
    rcases ht with rfl | ht | ht
    · dsimp only
      omega
    · have := value.bounds_tokens _ _ _ t ht
      omega
    · have := rest.bounds_tokens _ _ _ t ht
      rw [List.length_tail] at this
      omega

end

/-- What kind of token a value begins with. -/
def Value.kind : Value → Kind
  | .string _ => .string
  | .primitive _ => .primitive
  | .array _ => .array
  | .object _ => .object

/-- The value of the first member with the key; only objects have members. -/
def Value.first? (v : Value) (key : String) : Option Value :=
  match v with
  | .object members => members.lookup key.toUTF8.toList
  | _ => none

theorem Members.length_values : ∀ ms : Members, ms.values.length = ms.length
  | .nil => rfl
  | .cons _ _ _ _ _ _ rest => by
    rw [Members.values, List.length_cons, rest.length_values, Members.length]

/-- The first node of a value ends with the value, and the others begin and end before that. -/
theorem Tree.exists_tokens_eq_cons (v : Tree) (start index : Nat) (parent : Option Nat) :
    ∃ t ts, v.tokens start index parent = t :: ts ∧ t.kind = v.value.kind ∧
      t.stop ≤ start + v.bytes.length ∧ ∀ t' ∈ ts, t'.start < t.stop ∧ t'.stop ≤ t.stop := by
  cases v with
  | string body =>
    refine ⟨_, [], rfl, rfl, ?_, by simp⟩
    simp only [Tree.bytes, List.length_cons, List.length_append]
    omega
  | primitive literal => exact ⟨_, [], rfl, rfl, Nat.le_refl _, by simp⟩
  | array inside elements =>
    refine ⟨_, _, rfl, rfl, Nat.le_refl _, fun t ht => ?_⟩
    have := elements.bounds_tokens _ _ _ t ht
    simp only [Tree.bytes, List.length_cons, List.length_append]
    omega
  | object inside members =>
    refine ⟨_, _, rfl, rfl, Nat.le_refl _, fun t ht => ?_⟩
    have := members.bounds_tokens _ _ _ t ht
    simp only [Tree.bytes, List.length_cons, List.length_append]
    omega

namespace Cursor

variable {c : Cursor}

theorem getElem?_of_standsAt {i : Nat} {t : Token} {ts : List Token}
    (h : StandsAt c.tokens.toList i (t :: ts)) : c.tokens[i]? = some t := by
  rw [← Array.getElem?_toList]
  exact h.head

/-- The bytes under a token are what stands in its span. -/
theorem raw?_of_standsAt {i start size : Nat} {kind : Kind} {parent : Option Nat} {l : List UInt8}
    (ht : c.tokens[i]? = some ⟨kind, start, start + l.length, size, parent⟩)
    (hl : StandsAt c.source.toList start l) (hs : start + l.length ≤ c.source.size) :
    c.raw? i = some l := by
  rw [raw?, ht, Option.bind_some, if_pos ⟨Nat.le_add_right _ _, hs⟩, Array.toList_extract,
    List.extract_eq_take_drop, Nat.add_sub_cancel_left, hl.take]

/-! ## Going past tokens -/

theorem skipFrom_of_lt {boundary i : Nat} {t : Token} (ht : c.tokens[i]? = some t)
    (h : t.start < boundary) :
    c.skipFrom boundary i = c.skipFrom (max boundary t.stop) (i + 1) := by
  obtain ⟨hi, rfl⟩ := Array.getElem?_eq_some_iff.1 ht
  rw [skipFrom, dif_pos hi, if_pos h]

/-- Tokens that begin and end before the boundary are passed over. -/
theorem skipFrom_of_inside {boundary : Nat} {ts : List Token} {i : Nat}
    (hts : StandsAt c.tokens.toList i ts) (h : ∀ t ∈ ts, t.start < boundary ∧ t.stop ≤ boundary) :
    c.skipFrom boundary i = c.skipFrom boundary (i + ts.length) := by
  induction ts generalizing i with
  | nil => rfl
  | cons t ts ih =>
    obtain ⟨ht, hs⟩ := h t (by simp)
    rw [skipFrom_of_lt (getElem?_of_standsAt hts) ht, Nat.max_eq_left hs,
      ih hts.tail fun t h' => h t (by simp [h']),
      List.length_cons, Nat.add_assoc, Nat.add_comm 1]

/-- The walk ends where a token begins behind the boundary. -/
theorem skipFrom_of_behind {boundary i : Nat}
    (h : ∀ t ∈ c.tokens[i]?, boundary ≤ t.start) : c.skipFrom boundary i = i := by
  rw [skipFrom]
  split
  · next hi => rw [if_neg (Nat.not_lt.2 (h _ (Array.getElem?_eq_getElem hi)))]
  · rfl

theorem findFrom_of_lt {limit i : Nat} {t : Token} (written : List UInt8)
    (ht : c.tokens[i]? = some t) (h : t.start < limit) :
    c.findFrom limit written i =
      if c.isString i written && c.tokens[i + 1]?.any (·.start < limit) then some (i + 1)
      else c.findFrom limit written (c.skip (i + 1)) := by
  obtain ⟨hi, rfl⟩ := Array.getElem?_eq_some_iff.1 ht
  rw [findFrom, dif_pos hi, if_pos h]

/-- The search ends where a token begins behind the limit. -/
theorem findFrom_of_behind {limit i : Nat} (written : List UInt8)
    (h : ∀ t ∈ c.tokens[i]?, limit ≤ t.start) : c.findFrom limit written i = none := by
  rw [findFrom]
  split
  · next hi => rw [if_neg (Nat.not_lt.2 (h _ (Array.getElem?_eq_getElem hi)))]
  · rfl

/-! ## Trees that a cursor holds -/

/-- From the index on, the tokens are the nodes of the tree, which stands in the source. The token
behind them begins behind the tree. -/
structure Holds (c : Cursor) (v : Tree) (start index : Nat) (parent : Option Nat) : Prop where
  stands : StandsAt c.source.toList start v.bytes
  listed : StandsAt c.tokens.toList index (v.tokens start index parent)
  behind : ∀ t ∈ c.tokens[index + v.count]?, start + v.bytes.length ≤ t.start

/-- From the index on, the tokens are the nodes of the members, which stand in the source. They end
before the limit, and the token behind them begins behind it. -/
structure HoldsMembers (c : Cursor) (ms : Members) (start index object limit : Nat) : Prop where
  stands : StandsAt c.source.toList start ms.listed.tail
  listed : StandsAt c.tokens.toList index (ms.tokens start index object)
  within : start + ms.listed.length ≤ limit + 1
  behind : ∀ t ∈ c.tokens[index + ms.count]?, limit ≤ t.start

/-- The next token is the first of those that follow, or the one behind them. -/
theorem start_ge_of_rest {ts : List Token} {i n bound : Nat} (hl : StandsAt c.tokens.toList i ts)
    (hn : ts.length = n) (hts : ∀ t ∈ ts, bound ≤ t.start)
    (hbehind : ∀ t ∈ c.tokens[i + n]?, bound ≤ t.start) : ∀ t ∈ c.tokens[i]?, bound ≤ t.start := by
  intro t ht
  cases ts with
  | nil =>
    subst hn
    exact hbehind t ht
  | cons t' ts =>
    obtain rfl : t' = t := Option.some.inj ((getElem?_of_standsAt hl).symm.trans ht)
    exact hts t' List.mem_cons_self

namespace Holds

variable {v : Tree} {start index : Nat} {parent : Option Nat}

theorem kind? (h : c.Holds v start index parent) : c.kind? index = some v.value.kind := by
  obtain ⟨t, ts, hv, hk, -, -⟩ := v.exists_tokens_eq_cons start index parent
  have hl : StandsAt c.tokens.toList index (t :: ts) := hv ▸ h.listed
  rw [Cursor.kind?, getElem?_of_standsAt hl, Option.map_some, hk]

theorem raw?_string {body : Body} (h : c.Holds (.string body) start index parent) :
    c.raw? index = some body.bytes := by
  have hs := h.stands.length_le (by simp [Tree.bytes])
  simp only [Array.length_toList, Tree.bytes, List.length_cons, List.length_append] at hs
  exact raw?_of_standsAt (getElem?_of_standsAt h.listed) h.stands.tail.left (by omega)

theorem raw?_primitive {literal : Literal} (h : c.Holds (.primitive literal) start index parent) :
    c.raw? index = some literal.bytes := by
  have hs := h.stands.length_le (Tree.bytes_ne_nil _)
  rw [Array.length_toList] at hs
  exact raw?_of_standsAt (getElem?_of_standsAt h.listed) h.stands hs

/-- A walk from a value ends behind its nodes. -/
theorem skip (h : c.Holds v start index parent) : c.skip index = index + v.count := by
  obtain ⟨t, ts, hv, -, hs, hts⟩ := v.exists_tokens_eq_cons start index parent
  have hl : StandsAt c.tokens.toList index (t :: ts) := hv ▸ h.listed
  have hc : ts.length + 1 = v.count := by
    rw [← v.length_tokens start index parent, hv, List.length_cons]
  have hi : index + 1 + ts.length = index + v.count := by omega
  rw [Cursor.skip, getElem?_of_standsAt hl]
  dsimp only
  rw [skipFrom_of_inside (by exact hl.tail) hts, hi]
  exact skipFrom_of_behind fun t' h' => Nat.le_trans hs (h.behind t' h')

/-- An object's members begin behind its first token. -/
theorem members {inside : Blanks} {ms : Members}
    (h : c.Holds (.object inside ms) start index parent) :
    c.HoldsMembers ms (start + 1 + inside.bytes.length) (index + 1) index
      (start + (Tree.object inside ms).bytes.length) where
  stands := h.stands.tail.right.left
  listed := h.listed.tail
  within := by
    simp only [Tree.bytes, List.length_cons, List.length_append, List.length_tail]
    omega
  behind := by
    have hb := h.behind
    rwa [Tree.count, ← Nat.add_assoc] at hb

end Holds

/-- A tree of this value is held at the index. -/
def Spells (c : Cursor) (i : Nat) (v : Value) : Prop :=
  ∃ tree start parent, Tree.value tree = v ∧ c.Holds tree start i parent

namespace HoldsMembers

variable {before afterKey beforeValue after : Blanks} {key : Body} {value : Tree} {more : Members}
  {start index object limit : Nat}

theorem rest
    (h : c.HoldsMembers (.cons before key afterKey beforeValue value after more) start index object
      limit) :
    c.HoldsMembers more
      (start + (before.bytes.length + key.bytes.length + afterKey.bytes.length +
        beforeValue.bytes.length + 3 + value.bytes.length + after.bytes.length) + 1)
      (index + 1 + value.count) object limit where
  stands := h.stands.member.2.2
  listed := by
    have hl := h.listed.tail.right
    rwa [Tree.length_tokens] at hl
  within := by
    have hw := h.within
    simp only [Members.listed, List.length_append, List.length_cons] at hw
    omega
  behind := by
    have hb := h.behind
    rwa [Members.count, ← Nat.add_assoc, ← Nat.add_assoc] at hb

/-- The token behind a value belongs to the next member or comes after the object. -/
theorem first
    (h : c.HoldsMembers (.cons before key afterKey beforeValue value after more) start index object
      limit) :
    c.Holds value
      (start + (before.bytes.length + key.bytes.length + afterKey.bytes.length +
        beforeValue.bytes.length + 3)) (index + 1) (some index) where
  stands := h.stands.member.2.1
  listed := h.listed.tail.left
  behind := by
    have hw := h.within
    simp only [Members.listed, List.length_append, List.length_cons] at hw
    exact start_ge_of_rest h.rest.listed (more.length_tokens _ _ _)
      (fun t ht => by have := (more.bounds_tokens _ _ _ t ht).1; omega)
      (fun t ht => by have := h.rest.behind t ht; omega)

theorem isString_key
    (h : c.HoldsMembers (.cons before key afterKey beforeValue value after more) start index object
      limit) (written : List UInt8) :
    c.isString index written = (key.bytes == written) := by
  have ht := getElem?_of_standsAt h.listed
  have hs := h.first.stands.length_le value.bytes_ne_nil
  simp only [Array.length_toList] at hs
  rw [isString, Cursor.kind?, raw?_of_standsAt ht h.stands.member.1 (by omega), ht]
  rfl

/-- A search stops at the first member or goes on behind it. -/
theorem findFrom_cons
    (h : c.HoldsMembers (.cons before key afterKey beforeValue value after more) start index object
      limit) (written : List UInt8) :
    c.findFrom limit written index =
      if key.bytes == written then some (index + 1)
      else c.findFrom limit written (index + 1 + value.count) := by
  have hbounds := (Members.cons before key afterKey beforeValue value after more).bounds_tokens
    start index object
  have hw := h.within
  rw [Members.tokens] at hbounds
  obtain ⟨t, ts, hv, -⟩ := value.exists_tokens_eq_cons
    (start + (before.bytes.length + key.bytes.length + afterKey.bytes.length +
      beforeValue.bytes.length + 3)) (index + 1) (some index)
  have ht := getElem?_of_standsAt (hv ▸ h.first.listed)
  have hkey := hbounds _ List.mem_cons_self
  have hvalue := hbounds t (by simp [hv])
  rw [List.length_tail] at hkey hvalue
  rw [findFrom_of_lt written (getElem?_of_standsAt h.listed) (by omega), h.isString_key, ht,
    h.first.skip, Option.any_some, decide_eq_true (by omega), Bool.and_true]

/-- The walk over the members finds the first one with the key. -/
theorem findFrom (written : List UInt8) : ∀ {ms : Members} {start index : Nat},
    c.HoldsMembers ms start index object limit →
      Option.Rel c.Spells (c.findFrom limit written index) (ms.values.lookup written)
  | .nil, start, index, h => by
    rw [findFrom_of_behind written (by exact h.behind)]
    exact .none
  | .cons before key afterKey beforeValue value after more, start, index, h => by
    rw [h.findFrom_cons, Members.values, List.lookup_cons, Bool.beq_comm]
    cases written == key.bytes with
    | true => exact .some ⟨value, _, _, rfl, h.first⟩
    | false => exact h.rest.findFrom written

end HoldsMembers

/-! ## Values that a cursor spells -/

namespace Spells

variable {i : Nat} {v : Value}

theorem kind? (h : c.Spells i v) : c.kind? i = some v.kind := by
  obtain ⟨tree, start, parent, rfl, ht⟩ := h
  exact ht.kind?

theorem raw?_string {body : List UInt8} (h : c.Spells i (.string body)) :
    c.raw? i = some body := by
  obtain ⟨tree, start, parent, hv, ht⟩ := h
  cases tree with
  | string b => rw [ht.raw?_string, Value.string.inj hv]
  | _ => cases hv

theorem raw?_primitive {literal : List UInt8} (h : c.Spells i (.primitive literal)) :
    c.raw? i = some literal := by
  obtain ⟨tree, start, parent, hv, ht⟩ := h
  cases tree with
  | primitive l => rw [ht.raw?_primitive, Value.primitive.inj hv]
  | _ => cases hv

/-- The token of an object counts its members. -/
theorem getElem?_object {members : List (List UInt8 × Value)} (h : c.Spells i (.object members)) :
    ∃ t, c.tokens[i]? = some t ∧ t.kind = .object ∧ t.size = members.length := by
  obtain ⟨tree, start, parent, hv, ht⟩ := h
  cases tree with
  | object inside ms =>
    refine ⟨_, getElem?_of_standsAt ht.listed, rfl, ?_⟩
    rw [← Value.object.inj hv, Members.length_values]
  | _ => cases hv

/-- Of several members with one key the first is found, wherever the key stands elsewhere. -/
theorem find? (h : c.Spells i v) (key : String) :
    Option.Rel c.Spells (c.find? i key) (v.first? key) := by
  obtain ⟨tree, start, parent, rfl, ht⟩ := h
  rw [Cursor.find?]
  cases tree with
  | object inside ms =>
    rw [getElem?_of_standsAt ht.listed]
    exact ht.members.findFrom key.toUTF8.toList
  | _ =>
    rw [getElem?_of_standsAt ht.listed]
    exact .none

theorem find?_eq_none (h : c.Spells i v) {key : String} (hk : v.first? key = none) :
    c.find? i key = none := by
  have hf := h.find? key
  rw [hk] at hf
  generalize c.find? i key = found at hf
  cases hf
  rfl

theorem exists_find?_eq_some (h : c.Spells i v) {key : String} {w : Value}
    (hk : v.first? key = some w) : ∃ j, c.find? i key = some j ∧ c.Spells j w := by
  have hf := h.find? key
  rw [hk] at hf
  generalize c.find? i key = found at hf
  cases hf with
  | some hw => exact ⟨_, rfl, hw⟩

end Spells

end Cursor

/-- The tokens of a text with its bytes. -/
def Document.cursor (d : Document) : Cursor := ⟨d.bytes.toArray, d.tokens.toArray⟩

theorem Document.holds_root (d : Document) :
    d.cursor.Holds d.root d.before.bytes.length 0 none := by
  refine ⟨d.standsAt_root, StandsAt.all d.tokens, ?_⟩
  have hl := d.root.length_tokens d.before.bytes.length 0 none
  simp [cursor, tokens, hl]

theorem Document.spells_root (d : Document) : d.cursor.Spells 0 d.root.value :=
  ⟨d.root, _, none, rfl, d.holds_root⟩

end ChatLink.Json
