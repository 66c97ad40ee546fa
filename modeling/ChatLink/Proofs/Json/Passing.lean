import ChatLink.Proofs.Json.Nesting
import Mathlib.Order.Bounds.Defs

/-!
# Passing a value

Whoever passes a value walks on while tokens begin before a boundary, which is at first the end of
the value, and moves the boundary to the furthest end of the tokens that are passed. `Cursor.Walks`
are the places to which such a walk comes, with the boundaries that it has there. In a token array
at large the walk could be carried beyond the value. In the tokens of an accepted text, well-formed
or not, nothing that begins in a value ends behind it, so the boundary never moves, and the walk
passes what is below the value and no more (`Cursor.passes_of_tokenize`).
-/

namespace ChatLink.Json

/-- The second token stands inside the first one, with both its ends. -/
def Token.Contains (t u : Token) : Prop := t.start < u.start ∧ u.start ≤ u.stop ∧ u.stop < t.stop

namespace Cursor

variable {c : Cursor} {boundary b i j k : Nat} {t u : Token}

/-- A walk that begins at `i` with this boundary comes to a place, with the boundary that it has
there. -/
inductive Walks (c : Cursor) (boundary i : Nat) : Nat → Nat → Prop where
  | start : c.Walks boundary i boundary i
  | next {b k : Nat} {u : Token} (h : c.Walks boundary i b k) (hu : c.tokens[k]? = some u)
    (hs : u.start < b) : c.Walks boundary i (max b u.stop) (k + 1)

namespace Walks

/-- A walk that begins one place later, with the boundary of the token that it has passed. -/
theorem of_next (hu : c.tokens[i]? = some u) (hs : u.start < boundary)
    (h : c.Walks (max boundary u.stop) (i + 1) b k) : c.Walks boundary i b k := by
  induction h with
  | start => exact .next .start hu hs
  | next _ hv ht ih => exact .next ih hv ht

theorem le (h : c.Walks boundary i b k) : i ≤ k := by
  induction h with
  | start => exact Nat.le_refl i
  | next _ _ _ ih => exact Nat.le_succ_of_le ih

/-- The walk came to every place before, and passed a token there. -/
theorem exists_passed (h : c.Walks boundary i b k) (hij : i ≤ j) (hjk : j < k) :
    ∃ b' u, c.Walks boundary i b' j ∧ c.tokens[j]? = some u ∧ u.start < b' := by
  induction h with
  | start => omega
  | next h hu hs ih =>
    rcases Nat.eq_or_lt_of_le (Nat.le_of_lt_succ hjk) with rfl | hjk
    · exact ⟨_, _, h, hu, hs⟩
    · exact ih hjk

end Walks

/-- The walk comes to the place that is its result, and cannot go on from there. -/
theorem exists_walks_skipFrom (c : Cursor) (boundary i : Nat) :
    ∃ b, c.Walks boundary i b (c.skipFrom boundary i) ∧
      ∀ u ∈ c.tokens[c.skipFrom boundary i]?, b ≤ u.start := by
  fun_induction c.skipFrom boundary i with
  | case1 boundary i h hs ih =>
    obtain ⟨b, hw, hend⟩ := ih
    exact ⟨b, hw.of_next (Array.getElem?_eq_getElem h) hs, hend⟩
  | case2 boundary i h hs =>
    refine ⟨boundary, .start, fun u hu => ?_⟩
    obtain rfl := Option.some.inj ((Array.getElem?_eq_getElem h).symm.trans hu)
    exact Nat.le_of_not_lt hs
  | case3 boundary i h =>
    exact ⟨boundary, .start, fun u hu => absurd (Array.getElem?_eq_some_iff.1 hu).1 h⟩

theorem skip_eq (ht : c.tokens[i]? = some t) : c.skip i = c.skipFrom t.stop (i + 1) := by
  rw [skip, ht]

/-- A walk past a value keeps its boundary, since whatever begins in the value ends in it. -/
theorem Walks.boundary_eq (hc : c.tokens.toList.Pairwise Token.Nests)
    (ht : c.tokens[i]? = some t) (h : c.Walks t.stop (i + 1) b k) : b = t.stop := by
  induction h with
  | start => rfl
  | @next b k u h hu hs ih =>
    subst ih
    have := (nests hc (Nat.lt_of_succ_le h.le) ht hu).2
    omega

/-- What it is to pass a value : the token `t` at `i`. -/
structure Passes (c : Cursor) (i : Nat) (t : Token) : Prop where
  /-- The walk comes to its result and never moves its boundary. -/
  walks : c.Walks t.stop (i + 1) t.stop (c.skip i)
  steady {b k : Nat} (h : c.Walks t.stop (i + 1) b k) : b = t.stop
  /-- The result is the least place behind the value where no token begins before its end. -/
  least : IsLeast {j | i < j ∧ ∀ u ∈ c.tokens[j]?, t.stop ≤ u.start} (c.skip i)
  /-- If all tokens behind `i` begin before the end of the value, it is the number of tokens. -/
  last (h : ∀ j u, i < j → c.tokens[j]? = some u → u.start < t.stop) : c.skip i = c.tokens.size
  /-- What is passed stands inside the value, -/
  inside {j : Nat} {u : Token} (hij : i < j) (hj : j < c.skip i) (hu : c.tokens[j]? = some u) :
    t.Contains u
  /-- and nothing that is not passed begins there. -/
  behind {j : Nat} {u : Token} (hj : c.skip i ≤ j) (hu : c.tokens[j]? = some u) : t.stop ≤ u.start

/-- Where spans are nested, a walk past a value passes what is below it and no more. -/
theorem passes (hc : c.tokens.toList.Pairwise Token.Nests)
    (hwithin : ∀ u ∈ c.tokens, u.start ≤ u.stop) (ht : c.tokens[i]? = some t) : c.Passes i t := by
  obtain ⟨b, hwalks, hend⟩ := c.exists_walks_skipFrom t.stop (i + 1)
  obtain rfl := hwalks.boundary_eq hc ht
  rw [← skip_eq ht] at hwalks hend
  have hlt : i < c.skip i := hwalks.le
  have hpassed : ∀ j, i < j → j < c.skip i →
      ∃ u, c.tokens[j]? = some u ∧ u.start < t.stop := by
    intro j hij hj
    obtain ⟨b, u, hw, hu, hs⟩ := hwalks.exists_passed hij hj
    exact ⟨u, hu, hw.boundary_eq hc ht ▸ hs⟩
  constructor
  case walks => exact hwalks
  case steady => exact fun h => h.boundary_eq hc ht
  case least =>
    refine ⟨⟨hlt, hend⟩, fun j hj => Nat.le_of_not_lt fun hjs => ?_⟩
    obtain ⟨u, hu, hs⟩ := hpassed j hj.1 hjs
    have := hj.2 u hu
    omega
  case last =>
    intro h
    have hi := (Array.getElem?_eq_some_iff.1 ht).1
    have hle : c.skip i ≤ c.tokens.size := by
      refine Nat.le_of_not_lt fun hsize => ?_
      obtain ⟨u, hu, -⟩ := hpassed c.tokens.size hi hsize
      exact absurd (Array.getElem?_eq_some_iff.1 hu).1 (Nat.lt_irrefl _)
    refine Nat.le_antisymm hle (Nat.le_of_not_lt fun hsize => ?_)
    have hu := Array.getElem?_eq_getElem hsize
    have := h _ _ hlt hu
    have := hend _ hu
    omega
  case inside =>
    intro j u hij hj hu
    obtain ⟨u', hu', hs⟩ := hpassed j hij hj
    obtain rfl := Option.some.inj (hu.symm.trans hu')
    obtain ⟨hstart, hstop⟩ := nests hc hij ht hu
    have hle := hwithin u (Array.mem_of_getElem? hu)
    exact ⟨hstart, hle, (hstop.resolve_left (by omega)).2⟩
  case behind =>
    intro j u hj hu
    rcases Nat.eq_or_lt_of_le hj with rfl | hj
    · exact hend u hu
    · -- the token at the end of the walk begins before all later ones
      have hv := Array.getElem?_eq_getElem
        (Nat.lt_trans hj (Array.getElem?_eq_some_iff.1 hu).1)
      have := hend _ hv
      have := (nests hc hj hv hu).1
      omega

/-- In the tokens of an accepted text, a walk past any token passes what is below it and no more. -/
theorem passes_of_tokenize {capacity : Nat} {text : List UInt8} {tokens : Array Token}
    (h : tokenize capacity text = .ok tokens) {i : Nat} {t : Token} (ht : tokens[i]? = some t) :
    Cursor.Passes ⟨text.toArray, tokens⟩ i t := by
  obtain ⟨hnests, hwithin⟩ := nested_of_tokenize h
  exact passes hnests (fun u hu => (hwithin u hu).1) ht

/-- In `[["",7]"x"]` the empty string begins where it ends, the number touches the bracket, and no
comma stands between the inner array and the string behind it. -/
theorem passes_of_tokenize_array :
    let text := [0x5b, 0x5b, 0x22, 0x22, 0x2c, 0x37, 0x5d, 0x22, 0x78, 0x22, 0x5d]
    let tokens := #[⟨.array, 0, 11, 2, none⟩, ⟨.array, 1, 7, 2, some 0⟩, ⟨.string, 3, 3, 0, some 1⟩,
      ⟨.primitive, 5, 6, 0, some 1⟩, ⟨.string, 8, 9, 0, some 0⟩]
    tokenize 5 text = .ok tokens ∧ tokens[1]? = some ⟨.array, 1, 7, 2, some 0⟩ ∧
      Cursor.Passes ⟨text.toArray, tokens⟩ 1 ⟨.array, 1, 7, 2, some 0⟩ := by
  intro text tokens
  have h : tokenize 5 text = .ok tokens := by decide +kernel
  exact ⟨h, rfl, passes_of_tokenize h rfl⟩

end Cursor

end ChatLink.Json
