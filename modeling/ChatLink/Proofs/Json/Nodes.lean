import ChatLink.Proofs.Json.Links
import ChatLink.Proofs.Json.Lookup

/-!
# Searches in nested objects

Values stand in values at any depth. `Tree.Node` says which value has its first node at an index, by
counting the nodes before it, and `Members.indexed` lists the members of an object with the indices
of their keys. What a cursor holds of the root it holds of all of them (`Document.Node.holds`) : the
token behind a value belongs to the next element or member, or comes after all that is around it.

So a search in any object finds the first of its members with the key, whatever the values before it
contain, and every token of an object is one where a search can begin (`searches_of_tokenize`).
-/

namespace ChatLink.Json

/-! ## Nodes -/

/-- A member of an object. -/
structure Member where
  /-- The index of its key. The first node of its value comes next. -/
  index : Nat
  /-- The key as it is written. -/
  key : List UInt8
  value : Tree

/-- The elements of an array, each with the index of its first node. -/
def Elements.indexed (index : Nat) : Elements → List (Nat × Tree)
  | .nil => []
  | .cons _ value _ rest => (index, value) :: rest.indexed (index + value.count)

/-- The members of an object in order. -/
def Members.indexed (index : Nat) : Members → List Member
  | .nil => []
  | .cons _ key _ _ value _ rest =>
    ⟨index, key.bytes, value⟩ :: rest.indexed (index + 1 + value.count)

/-- The value whose first node has this index is the root, with the index `index`, or stands in it
at some depth. -/
inductive Tree.Node (root : Tree) (index : Nat) : Nat → Tree → Prop where
  | root : Node root index index root
  | element {i k : Nat} {inside : Blanks} {elements : Elements} {v : Tree} :
      Node root index i (.array inside elements) → (k, v) ∈ elements.indexed (i + 1) →
        Node root index k v
  | member {i : Nat} {inside : Blanks} {members : Members} {m : Member} :
      Node root index i (.object inside members) → m ∈ members.indexed (i + 1) →
        Node root index (m.index + 1) m.value

/-- The text has this value at this index. -/
def Document.Node (d : Document) : Nat → Tree → Prop := d.root.Node 0

theorem Tree.Node.trans {root v w : Tree} {index i k : Nat} (h : root.Node index i v)
    (h' : v.Node i k w) : root.Node index k w := by
  induction h' with
  | root => exact h
  | element _ hmem ih => exact ih.element hmem
  | member _ hmem ih => exact ih.member hmem

mutual

/-- A token of a value that is no string begins a value. -/
theorem Tree.exists_node : ∀ (v : Tree) (start index : Nat) (parent : Option Nat) {j : Nat}
    {t : Token}, (v.tokens start index parent)[j]? = some t → t.kind ≠ .string →
      ∃ w, v.Node index (index + j) w
  | .string body, start, index, parent, j, t, ht, hk => by
    rw [Tree.tokens] at ht
    obtain rfl := List.mem_singleton.1 (List.mem_of_getElem? ht)
    exact absurd rfl hk
  | .primitive literal, start, index, parent, j, t, ht, hk => by
    have hj := (List.getElem?_eq_some_iff.1 ht).1
    rw [Tree.tokens, List.length_singleton] at hj
    obtain rfl : j = 0 := by omega
    exact ⟨_, .root⟩
  | .array inside elements, start, index, parent, 0, t, ht, hk => ⟨_, .root⟩
  | .array inside elements, start, index, parent, j + 1, t, ht, hk => by
    rw [Tree.tokens, List.getElem?_cons_succ] at ht
    obtain ⟨k, v, hmem, w, hw⟩ := elements.exists_node _ _ _ ht hk
    rw [Nat.add_assoc, Nat.add_comm 1] at hw
    exact ⟨w, (Tree.Node.root.element hmem).trans hw⟩
  | .object inside members, start, index, parent, 0, t, ht, hk => ⟨_, .root⟩
  | .object inside members, start, index, parent, j + 1, t, ht, hk => by
    rw [Tree.tokens, List.getElem?_cons_succ] at ht
    obtain ⟨m, hmem, w, hw⟩ := members.exists_node _ _ _ ht hk
    rw [Nat.add_assoc, Nat.add_comm 1] at hw
    exact ⟨w, (Tree.Node.root.member hmem).trans hw⟩

theorem Elements.exists_node : ∀ (es : Elements) (start index array : Nat) {j : Nat} {t : Token},
    (es.tokens start index array)[j]? = some t → t.kind ≠ .string →
      ∃ k v, (k, v) ∈ es.indexed index ∧ ∃ w, v.Node k (index + j) w
  | .nil, start, index, array, j, t, ht, hk => by simp [Elements.tokens] at ht
  | .cons before value after rest, start, index, array, j, t, ht, hk => by
    rw [Elements.tokens, List.getElem?_append, Tree.length_tokens] at ht
    split at ht
    · exact ⟨index, value, List.mem_cons_self, value.exists_node _ _ _ ht hk⟩
    · next hj =>
      obtain ⟨k, v, hmem, w, hw⟩ := rest.exists_node _ _ _ ht hk
      rw [Nat.add_assoc, Nat.add_sub_cancel' (Nat.le_of_not_lt hj)] at hw
      exact ⟨k, v, List.mem_cons_of_mem _ hmem, w, hw⟩

theorem Members.exists_node : ∀ (ms : Members) (start index object : Nat) {j : Nat} {t : Token},
    (ms.tokens start index object)[j]? = some t → t.kind ≠ .string →
      ∃ m ∈ ms.indexed index, ∃ w, m.value.Node (m.index + 1) (index + j) w
  | .nil, start, index, object, j, t, ht, hk => by simp [Members.tokens] at ht
  | .cons before key afterKey beforeValue value after rest, start, index, object, 0, t, ht, hk => by
    rw [Members.tokens, List.getElem?_cons_zero] at ht
    cases ht
    exact absurd rfl hk
  | .cons before key afterKey beforeValue value after rest, start, index, object, j + 1, t, ht,
      hk => by
    rw [Members.tokens, List.getElem?_cons_succ, List.getElem?_append, Tree.length_tokens] at ht
    split at ht
    · obtain ⟨w, hw⟩ := value.exists_node _ _ _ ht hk
      rw [Nat.add_assoc, Nat.add_comm 1] at hw
      exact ⟨_, List.mem_cons_self, w, hw⟩
    · next hj =>
      obtain ⟨m, hmem, w, hw⟩ := rest.exists_node _ _ _ ht hk
      rw [Nat.add_assoc, Nat.add_sub_cancel' (Nat.le_of_not_lt hj), Nat.add_assoc,
        Nat.add_comm 1] at hw
      exact ⟨m, List.mem_cons_of_mem _ hmem, w, hw⟩

end

namespace Cursor

variable {c : Cursor}

/-! ## What a cursor holds of a value -/

/-- From the index on, the tokens are the nodes of the elements, which stand in the source. They end
before the limit, and the token behind them begins behind it. -/
structure HoldsElements (c : Cursor) (es : Elements) (start index array limit : Nat) : Prop where
  stands : StandsAt c.source.toList start es.listed.tail
  listed : StandsAt c.tokens.toList index (es.tokens start index array)
  within : start + es.listed.length ≤ limit + 1
  behind : ∀ t ∈ c.tokens[index + es.count]?, limit ≤ t.start

/-- An array's elements begin behind its first token. -/
theorem Holds.elements {inside : Blanks} {es : Elements} {start index : Nat} {parent : Option Nat}
    (h : c.Holds (.array inside es) start index parent) :
    c.HoldsElements es (start + 1 + inside.bytes.length) (index + 1) index
      (start + (Tree.array inside es).bytes.length) where
  stands := h.stands.tail.right.left
  listed := h.listed.tail
  within := by
    simp only [Tree.bytes, List.length_cons, List.length_append, List.length_tail]
    omega
  behind := by
    have hb := h.behind
    rwa [Tree.count, ← Nat.add_assoc] at hb

namespace HoldsElements

variable {before after : Blanks} {value : Tree} {more : Elements} {start index array limit : Nat}

theorem rest (h : c.HoldsElements (.cons before value after more) start index array limit) :
    c.HoldsElements more
      (start + (before.bytes.length + value.bytes.length + after.bytes.length) + 1)
      (index + value.count) array limit where
  stands := h.stands.element.2
  listed := by
    have hl := h.listed.right
    rwa [Tree.length_tokens] at hl
  within := by
    have hw := h.within
    simp only [Elements.listed, List.length_append, List.length_cons] at hw
    omega
  behind := by
    have hb := h.behind
    rwa [Elements.count, ← Nat.add_assoc] at hb

theorem first (h : c.HoldsElements (.cons before value after more) start index array limit) :
    c.Holds value (start + before.bytes.length) index (some array) where
  stands := h.stands.element.1
  listed := h.listed.left
  behind := by
    have hw := h.within
    simp only [Elements.listed, List.length_append, List.length_cons] at hw
    exact start_ge_of_rest h.rest.listed (more.length_tokens _ _ _)
      (fun t ht => by have := (more.bounds_tokens _ _ _ t ht).1; omega)
      (fun t ht => by have := h.rest.behind t ht; omega)

theorem holds : ∀ {es : Elements} {start index k : Nat} {v : Tree},
    c.HoldsElements es start index array limit → (k, v) ∈ es.indexed index →
      ∃ start', c.Holds v start' k (some array)
  | .nil, _, _, _, _, _, hmem => absurd hmem List.not_mem_nil
  | .cons before value after more, start, index, k, v, h, hmem => by
    rcases List.mem_cons.1 hmem with heq | hmem
    · cases heq
      exact ⟨_, h.first⟩
    · exact h.rest.holds hmem

end HoldsElements

/-- The tokens of a member are its key, which hangs from the object, and the nodes of its value,
which hangs from the key. -/
structure HoldsMember (c : Cursor) (object : Nat) (m : Member) : Prop where
  key : c.isString m.index m.key
  hangs : Hangs c.tokens m.index object
  value : ∃ start, c.Holds m.value start (m.index + 1) (some m.index)

namespace HoldsMembers

variable {object limit : Nat}

theorem holds : ∀ {ms : Members} {start index : Nat} {m : Member},
    c.HoldsMembers ms start index object limit → m ∈ ms.indexed index → c.HoldsMember object m
  | .nil, _, _, _, _, hmem => absurd hmem List.not_mem_nil
  | .cons before key afterKey beforeValue value after more, start, index, m, h, hmem => by
    rcases List.mem_cons.1 hmem with rfl | hmem
    · exact ⟨by rw [h.isString_key, beq_self_eq_true],
        (hangs_iff (getElem?_of_standsAt h.listed)).2 rfl, _, h.first⟩
    · exact h.rest.holds hmem

/-- The walk over the members ends at the first one with the key. -/
theorem findFrom_eq (written : List UInt8) : ∀ {ms : Members} {start index : Nat},
    c.HoldsMembers ms start index object limit →
      c.findFrom limit written index =
        ((ms.indexed index).find? (·.key == written)).map (·.index + 1)
  | .nil, start, index, h => findFrom_of_behind written h.behind
  | .cons before key afterKey beforeValue value after more, start, index, h => by
    rw [h.findFrom_cons, Members.indexed, List.find?_cons, h.rest.findFrom_eq]
    dsimp only
    cases key.bytes == written <;> rfl

end HoldsMembers

/-! ## What a search finds -/

/-- A value hangs from the token that it was held with. -/
theorem Holds.hangs {v : Tree} {start index i : Nat} (h : c.Holds v start index (some i)) :
    Hangs c.tokens index i := by
  have hparent : ∀ (v : Tree) (start index : Nat) (parent : Option Nat),
      ∃ t ts, v.tokens start index parent = t :: ts ∧ t.parent = parent := by
    intro v start index parent
    cases v <;> exact ⟨_, _, rfl, rfl⟩
  obtain ⟨t, ts, ht, hp⟩ := hparent v start index (some i)
  exact (hangs_iff (getElem?_of_standsAt (ht ▸ h.listed))).2 hp

theorem Holds.find?_eq {inside : Blanks} {members : Members} {start i : Nat} {parent : Option Nat}
    (h : c.Holds (.object inside members) start i parent) (key : String) :
    c.find? i key =
      ((members.indexed (i + 1)).find? (·.key == key.toUTF8.toList)).map (·.index + 1) := by
  rw [Cursor.find?, getElem?_of_standsAt h.listed]
  exact h.members.findFrom_eq key.toUTF8.toList

end Cursor

/-- The cursor of a text holds all its values. -/
theorem Document.Node.holds {d : Document} {i : Nat} {v : Tree} (h : d.Node i v) :
    ∃ start parent, d.cursor.Holds v start i parent := by
  induction h with
  | root => exact ⟨_, _, d.holds_root⟩
  | element _ hmem ih =>
    obtain ⟨start, parent, hv⟩ := ih
    obtain ⟨start', hk⟩ := hv.elements.holds hmem
    exact ⟨start', _, hk⟩
  | member _ hmem ih =>
    obtain ⟨start, parent, hv⟩ := ih
    obtain ⟨start', hm⟩ := (hv.members.holds hmem).value
    exact ⟨start', _, hm⟩

/-- A token that is no string begins a value of its kind. -/
theorem Document.exists_node {d : Document} {i : Nat} {kind : Kind}
    (h : d.cursor.kind? i = some kind) (hk : kind ≠ .string) :
    ∃ w, d.Node i w ∧ w.value.kind = kind := by
  obtain ⟨t, ht, rfl⟩ := Option.map_eq_some_iff.1 h
  have htokens : (d.root.tokens d.before.bytes.length 0 none)[i]? = some t := by
    rw [← Array.getElem?_toList] at ht
    exact ht
  obtain ⟨w, hw⟩ := d.root.exists_node _ _ _ htokens hk
  rw [Nat.zero_add] at hw
  obtain ⟨start, parent, hv⟩ := Document.Node.holds hw
  exact ⟨w, hw, Option.some.inj (hv.kind?.symm.trans h)⟩

/-- How searches in the objects of a text go. -/
structure Searches (d : Document) (c : Cursor) : Prop where
  isObject_iff {i : Nat} :
    c.kind? i = some .object ↔ ∃ inside members, d.Node i (.object inside members)
  /-- Where no object is, or no token, nothing is found. -/
  eq_none {i : Nat} (h : c.kind? i ≠ some .object) (key : String) : c.find? i key = none
  /-- What is found for a key is the value of the first member with this key. -/
  eq_some_iff {i k : Nat} {inside : Blanks} {members : Members}
    (h : d.Node i (.object inside members)) (key : String) : c.find? i key = some k ↔
      ∃ before m after, members.indexed (i + 1) = before ++ m :: after ∧
        m.key = key.toUTF8.toList ∧ k = m.index + 1 ∧ ∀ m' ∈ before, m'.key ≠ key.toUTF8.toList
  eq_none_iff {i : Nat} {inside : Blanks} {members : Members}
    (h : d.Node i (.object inside members)) (key : String) : c.find? i key = none ↔
      ∀ m ∈ members.indexed (i + 1), m.key ≠ key.toUTF8.toList
  /-- The indices are those of the tokens. -/
  holds {i : Nat} {inside : Blanks} {members : Members} {m : Member}
    (h : d.Node i (.object inside members)) (hm : m ∈ members.indexed (i + 1)) :
      c.HoldsMember i m ∧ Hangs c.tokens (m.index + 1) m.index

/-- Among the tokens of a well-formed text, a search in an object at any depth finds the value of
the first member with the key. -/
theorem searches_of_tokenize {capacity : Nat} {d : Document} {tokens : Array Token}
    (h : tokenize capacity d.bytes = .ok tokens) : Searches d ⟨d.bytes.toArray, tokens⟩ := by
  have hc : Cursor.mk d.bytes.toArray tokens = d.cursor := by
    rw [tokenize_bytes] at h
    split at h
    · cases h
      rfl
    · cases h
  rw [hc]
  have hfind : ∀ {i : Nat} {inside : Blanks} {members : Members},
      d.Node i (.object inside members) → ∀ key : String, d.cursor.find? i key =
        ((members.indexed (i + 1)).find? (·.key == key.toUTF8.toList)).map (·.index + 1) := by
    intro i inside members hnode key
    obtain ⟨start, parent, hv⟩ := hnode.holds
    exact hv.find?_eq key
  constructor
  case isObject_iff =>
    intro i
    constructor
    · intro hk
      obtain ⟨w, hnode, hobject⟩ := d.exists_node hk (by simp)
      cases w with
      | object inside members => exact ⟨inside, members, hnode⟩
      | string | primitive | array => cases hobject
    · rintro ⟨inside, members, hnode⟩
      obtain ⟨start, parent, hv⟩ := hnode.holds
      exact hv.kind?
  case eq_none =>
    intro i hk key
    unfold Cursor.find?
    unfold Cursor.kind? at hk
    split
    · next t ht => rw [if_neg (by simpa [ht] using hk)]
    · rfl
  case eq_some_iff =>
    intro i k inside members hnode key
    rw [hfind hnode, Option.map_eq_some_iff]
    constructor
    · rintro ⟨m, hm, rfl⟩
      obtain ⟨hkey, before, after, heq, hbefore⟩ := List.find?_eq_some_iff_append.1 hm
      exact ⟨before, m, after, heq, by simpa using hkey, rfl, by simpa using hbefore⟩
    · rintro ⟨before, m, after, heq, hkey, rfl, hbefore⟩
      refine ⟨m, List.find?_eq_some_iff_append.2 ⟨by simpa using hkey, before, after, heq, ?_⟩, rfl⟩
      simpa using hbefore
  case eq_none_iff =>
    intro i inside members hnode key
    rw [hfind hnode, Option.map_eq_none_iff, List.find?_eq_none]
    simp
  case holds =>
    intro i inside members m hnode hm
    obtain ⟨start, parent, hv⟩ := hnode.holds
    have hmember := hv.members.holds hm
    obtain ⟨start', hvalue⟩ := hmember.value
    exact ⟨hmember, hvalue.hangs⟩

def Body.a : Body := ⟨[0x61], .plain (by decide) (by decide) .nil⟩

def Body.b : Body := ⟨[0x62], .plain (by decide) (by decide) .nil⟩

/-- The text `{"a":"b","b":{"b":[]},"b":null}`. -/
def Document.repeated : Document where
  before := .none
  root := .object .none
    (.cons .none .a .none .none (.string .b) .none
    (.cons .none .b .none .none
      (.object .none (.cons .none .b .none .none (.array .none .nil) .none .nil)) .none
    (.cons .none .b .none .none (.primitive ⟨_, .null⟩) .none
    .nil)))
  after := .none

/-- The object behind the first key `b` has such a key itself. -/
theorem searches_of_tokenize_repeated :
    tokenize 9 Document.repeated.bytes = .ok Document.repeated.tokens.toArray ∧
      Searches Document.repeated Document.repeated.cursor ∧
        Document.repeated.cursor.find? 0 "b" = some 4 ∧
          Document.repeated.cursor.find? 4 "b" = some 6 := by
  have h : tokenize 9 Document.repeated.bytes = .ok Document.repeated.tokens.toArray := by
    decide +kernel
  have hs := searches_of_tokenize h
  have hroot : Document.repeated.Node 0 Document.repeated.root := .root
  have hinner : Document.repeated.Node 4 _ :=
    hroot.member (List.mem_cons_of_mem _ List.mem_cons_self)
  have hkey : [0x62] = "b".toUTF8.toList := by decide +kernel
  exact ⟨h, hs, (hs.eq_some_iff hroot "b").2 ⟨[_], _, [_], rfl, hkey, rfl, by decide +kernel⟩,
    (hs.eq_some_iff hinner "b").2 ⟨[], _, [], rfl, hkey, rfl, nofun⟩⟩

end ChatLink.Json
