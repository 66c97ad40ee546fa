import ChatLink.Proofs.Json.Links
import Mathlib.Data.List.Duplicate

/-!
# Keys and their values

Containers and literals are refused where a key stands, and behind the value of a key. So a token
that hangs from an object is a string, and a container or a literal that hangs from a string is the
first of its values (`Keyed`). A string is not refused behind the value of a key, nor anywhere
else : in `{"a":[1] "b"}` the key `a` has two values (`not_forall_size_le_one`). This is the only
way in which a string comes to have more than one (`keyed_of_tokenize`).
-/

namespace ChatLink.Json

open scoped List

/-- The kinds of the tokens. -/
def kinds (tokens : Array Token) : List Kind := tokens.toList.map (·.kind)

/-- Where tokens hang. -/
structure Keyed (tokens : Array Token) : Prop where
  /-- What hangs from an object is a string, -/
  keys {i j : Nat} (hi : (kinds tokens)[i]? = some .object) (hj : Hangs tokens j i) :
    (kinds tokens)[j]? = some .string
  /-- and so is what hangs from a string from which an earlier token hangs. -/
  values {i j k : Nat} (hi : (kinds tokens)[i]? = some .string) (hj : Hangs tokens j i)
    (hk : Hangs tokens k i) (hjk : j < k) : (kinds tokens)[k]? = some .string

theorem getElem?_kinds (tokens : Array Token) (i : Nat) :
    (kinds tokens)[i]? = tokens[i]?.map (·.kind) := by
  rw [kinds, List.getElem?_map, Array.getElem?_toList]

theorem length_kinds (tokens : Array Token) : (kinds tokens).length = tokens.size := by
  rw [kinds, List.length_map, Array.length_toList]

theorem keyed_empty : Keyed #[] where
  keys hi := by simp [kinds] at hi
  values hi := by simp [kinds] at hi

/-- It is said of kinds and links. -/
theorem Keyed.congr {tokens tokens' : Array Token} (h : Keyed tokens)
    (hk : kinds tokens' = kinds tokens) (hp : parents tokens' = parents tokens) :
    Keyed tokens' := by
  have hhangs : Hangs tokens' = Hangs tokens := by
    funext j i
    rw [Hangs, Hangs, hp]
  constructor
  · rw [hk, hhangs]
    exact h.keys
  · rw [hk, hhangs]
    exact h.values

namespace Lexer

variable {capacity : Nat} {s s' : Lexer} {kind : Kind} {start stop i j : Nat}

theorem kinds_hung (s : Lexer) (kind : Kind) (start stop : Nat) :
    kinds (s.hung kind start stop) = kinds s.tokens ++ [kind] := by
  have hpush : kinds (s.tokens.push ⟨kind, start, stop, 0, s.anchor⟩) =
      kinds s.tokens ++ [kind] := by
    simp [kinds]
  refine List.ext_getElem? fun i => ?_
  rw [← hpush, getElem?_kinds, getElem?_kinds, getElem?_hung, Option.map_map]
  congr 1
  funext t
  simp only [Function.comp_apply]
  split <;> rfl

theorem kinds_modify (tokens : Array Token) (i stop : Nat) :
    kinds (tokens.modify i fun t => { t with stop := stop }) = kinds tokens := by
  refine List.ext_getElem? fun j => ?_
  rw [getElem?_kinds, getElem?_kinds, Array.getElem?_modify]
  split
  · rw [Option.map_map]
    rfl
  · rfl

/-- A link is an old one, or the one from the new token to the anchor. -/
theorem hangs_hung (h : Hangs (s.hung kind start stop) j i) :
    Hangs s.tokens j i ∨ j = s.tokens.size ∧ s.anchor = some i := by
  have hlt := h.lt_size
  rw [size_hung] at hlt
  rw [Hangs, parents_hung, List.getElem?_append, length_parents] at h
  split at h
  · exact .inl h
  · obtain rfl : j = s.tokens.size := by omega
    rw [Nat.sub_self, List.getElem?_cons_zero] at h
    exact .inr ⟨rfl, Option.some.inj h⟩

/-- Where a value may stand, the anchor is no object, and no string from which a token hangs. -/
theorem not_hangs_of_takesValue (h : s.Linked) (hv : s.takesValue) (ha : s.anchor = some i) :
    (kinds s.tokens)[i]? ≠ some .object ∧
      ((kinds s.tokens)[i]? = some .string → ∀ j, ¬ Hangs s.tokens j i) := by
  rw [getElem?_kinds]
  cases ht : s.tokens[i]? with
  | none => exact ⟨nofun, nofun⟩
  | some t =>
    simp only [takesValue, holder, ha, Option.bind_some, ht, Bool.and_eq_true, bne_iff_ne,
      Bool.or_eq_true, beq_iff_eq] at hv
    simp only [Option.map_some, ne_eq, Option.some_inj]
    refine ⟨hv.1, fun hs j hj => ?_⟩
    have hsize := hv.2.resolve_left (not_not_intro hs)
    have hcount := h.counted i t ht
    rw [hsize, eq_comm, List.count_eq_zero] at hcount
    exact hcount (List.mem_of_getElem? hj)

/-- A new token is a string, or it stands where a value may stand. -/
theorem keyed_hung (hk : Keyed s.tokens) (h : s.Linked) (hnew : kind = .string ∨ s.takesValue) :
    Keyed (s.hung kind start stop) := by
  have hlast : (kinds (s.hung kind start stop))[s.tokens.size]? = some kind := by
    rw [kinds_hung, ← length_kinds, List.getElem?_concat_length]
  have hold : ∀ {i}, i < s.tokens.size →
      (kinds (s.hung kind start stop))[i]? = (kinds s.tokens)[i]? := fun hi => by
    rw [kinds_hung, List.getElem?_append_left (by rwa [length_kinds])]
  constructor
  case keys =>
    intro i j hi hj
    rcases hangs_hung hj with hj | ⟨rfl, ha⟩
    · have hlt := hj.lt_size
      have hback := h.back j i hj
      rw [hold (by omega)] at hi
      rw [hold hlt]
      exact hk.keys hi hj
    · rw [hold (h.anchored i ha)] at hi
      rw [hlast, hnew.resolve_right fun hv => (not_hangs_of_takesValue h hv ha).1 hi]
  case values =>
    intro i j k hi hj hl hjk
    have hlt := hl.lt_size
    rw [size_hung] at hlt
    -- the earlier of the two is an old token
    have hj := (hangs_hung hj).resolve_right (by omega)
    have hback := h.back j i hj
    rw [hold (by omega)] at hi
    rcases hangs_hung hl with hl | ⟨rfl, ha⟩
    · rw [hold hl.lt_size]
      exact hk.values hi hj hl hjk
    · rw [hlast, hnew.resolve_right fun hv => (not_hangs_of_takesValue h hv ha).2 hi j hj]

/-- Tokens are keyed, and a literal has begun only where a value may stand. -/
structure Keys (s : Lexer) : Prop where
  keyed : Keyed s.tokens
  begun : ∀ start, s.mode = .primitive start → s.takesValue

theorem keys_initial : initial.Keys := ⟨keyed_empty, nofun⟩

/-- Outside of a literal it is a matter of the tokens. -/
theorem Keys.of_keyed (h : Keyed s.tokens) (hm : ∀ start, s.mode ≠ .primitive start) : s.Keys :=
  ⟨h, fun start heq => absurd heq (hm start)⟩

/-- Everything that can happen leaves the tokens keyed. -/
theorem Keys.reads {bytes : List UInt8} (h : s.Keys) (hl : s.Linked)
    (hr : Reads capacity s bytes s') : s'.Keys := by
  cases hr with
  | blank | colon | quote | plain | backslash | short | unicode =>
    exact .of_keyed h.keyed (by simp [advance])
  | comma =>
    rw [nextMember_eq]
    exact .of_keyed h.keyed (by simp [advance])
  | opening _ _ hv => exact .of_keyed (keyed_hung h.keyed hl (.inr hv)) (by simp)
  | closing =>
    exact .of_keyed (h.keyed.congr (kinds_modify _ _ _) (parents_modify _ _ _)) (by simp)
  | digit =>
    refine .of_keyed h.keyed fun start hm => ?_
    simp only [advance] at hm
    split at hm <;> cases hm
  | unquote => exact .of_keyed (keyed_hung h.keyed hl (.inl rfl)) (by simp)
  | literal _ _ hv => exact ⟨h.keyed, fun _ _ => hv⟩
  | more hm => exact ⟨h.keyed, fun _ _ => h.begun _ hm⟩
  | ended hm => exact .of_keyed (keyed_hung h.keyed hl (.inr (h.begun _ hm))) (by simp)

end Lexer

/-- What is counted more than once in a list of links stands in it at two places. -/
theorem one_lt_count_iff {tokens : Array Token} {i : Nat} :
    1 < (parents tokens).count (some i) ↔ ∃ j k, j < k ∧ Hangs tokens j i ∧ Hangs tokens k i := by
  have htwice : List.replicate 2 (some i) <+ parents tokens ↔
      2 ≤ (parents tokens).count (some i) := List.replicate_sublist_iff
  rw [← Nat.succ_le_iff, ← htwice]
  change [some i, some i] <+ parents tokens ↔ _
  rw [← List.duplicate_iff_sublist, List.duplicate_iff_exists_distinct_get]
  constructor
  · rintro ⟨j, k, hjk, hj, hk⟩
    refine ⟨j, k, hjk, ?_, ?_⟩
    · rw [Hangs, hj, List.get_eq_getElem, List.getElem?_eq_getElem]
    · rw [Hangs, hk, List.get_eq_getElem, List.getElem?_eq_getElem]
  · rintro ⟨j, k, hjk, hj, hk⟩
    obtain ⟨hjl, hj⟩ := List.getElem?_eq_some_iff.1 hj
    obtain ⟨hkl, hk⟩ := List.getElem?_eq_some_iff.1 hk
    exact ⟨⟨j, hjl⟩, ⟨k, hkl⟩, hjk, hj.symm, hk.symm⟩

/-- Whatever text is accepted, only strings hang from objects, and of the values of a string all but
the first are strings. So a string has more than one value exactly where a string hangs from it
behind another value. -/
theorem keyed_of_tokenize {capacity : Nat} {text : List UInt8} {tokens : Array Token}
    (h : tokenize capacity text = .ok tokens) :
    Keyed tokens ∧ ∀ (i : Nat) (t : Token), tokens[i]? = some t → t.kind = .string →
      (1 < t.size ↔ ∃ j k, j < k ∧ Hangs tokens j i ∧ Hangs tokens k i ∧
        (kinds tokens)[k]? = some .string) := by
  obtain ⟨s, ⟨⟨-, hl⟩, hk⟩, -, -, rfl⟩ := Lexer.tokenize_induction
    (P := fun _ s => s.Sound ∧ s.Keys) ⟨Lexer.sound_initial, Lexer.keys_initial⟩
    (fun h hr => ⟨h.1.reads hr, h.2.reads h.1.2 hr⟩) h
  refine ⟨hk.keyed, fun i t ht hs => ?_⟩
  have hkind : (kinds s.tokens)[i]? = some .string := by
    rw [getElem?_kinds, ht, Option.map_some, hs]
  rw [hl.counted i t ht, one_lt_count_iff]
  constructor
  · rintro ⟨j, k, hjk, hj, hk'⟩
    exact ⟨j, k, hjk, hj, hk', hk.keyed.values hkind hj hk' hjk⟩
  · rintro ⟨j, k, hjk, hj, hk', -⟩
    exact ⟨j, k, hjk, hj, hk'⟩

/-- The text `{"a":[1] "b"}`. -/
def crowded : List UInt8 := "\x7b\"a\":[1] \"b\"\x7d".toUTF8.toList

def crowdedTokens : Array Token := #[⟨.object, 0, 13, 1, none⟩, ⟨.string, 2, 3, 2, some 0⟩,
  ⟨.array, 5, 8, 1, some 1⟩, ⟨.primitive, 6, 7, 0, some 2⟩, ⟨.string, 10, 11, 0, some 1⟩]

theorem tokenize_crowded : tokenize 5 crowded = .ok crowdedTokens := by
  decide +kernel

/-- The array comes first and the string behind it. -/
theorem keyed_of_tokenize_crowded :
    tokenize 5 crowded = .ok crowdedTokens ∧ Keyed crowdedTokens ∧
      ∃ j k, j < k ∧ Hangs crowdedTokens j 1 ∧ Hangs crowdedTokens k 1 ∧
        (kinds crowdedTokens)[k]? = some .string := by
  obtain ⟨hk, hsize⟩ := keyed_of_tokenize tokenize_crowded
  exact ⟨tokenize_crowded, hk, (hsize 1 _ rfl rfl).1 (by decide)⟩

/-- Not every string has one value at most. -/
theorem not_forall_size_le_one :
    ¬ ∀ (capacity : Nat) (text : List UInt8) (tokens : Array Token),
      tokenize capacity text = .ok tokens →
        (∀ (i j : Nat) (t u : Token), tokens[i]? = some t → tokens[j]? = some u →
          u.parent = some i → t.kind = .object → u.kind = .string) ∧
        ∀ t ∈ tokens, t.kind = .string → t.size ≤ 1 := by
  intro hall
  have hsize := (hall 5 crowded crowdedTokens tokenize_crowded).2 ⟨.string, 2, 3, 2, some 0⟩
    (by simp [crowdedTokens]) rfl
  exact absurd hsize (by decide)

end ChatLink.Json
