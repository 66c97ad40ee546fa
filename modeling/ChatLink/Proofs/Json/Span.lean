import ChatLink.Proofs.Json.Syntax

/-!
# Where the pieces of a text stand

`StandsAt source offset l` says that a list is found in another one at an offset. The text of a
tree that stands in a source has its pieces standing where `Tree.tokens` says :
`Tree.map_text_tokens` reads each node's span in the source and gets the bytes of `Tree.covered`.
-/

namespace ChatLink.Json

/-- The list is a part of the source, from the offset on. -/
def StandsAt {α : Type} (source : List α) (offset : Nat) (l : List α) : Prop :=
  l <+: source.drop offset

namespace StandsAt

variable {α : Type} {source l l₁ l₂ : List α} {x : α} {offset offset' : Nat}

theorem all (l : List α) : StandsAt l 0 l := List.prefix_refl l

theorem left (h : StandsAt source offset (l₁ ++ l₂)) : StandsAt source offset l₁ :=
  (List.prefix_append l₁ l₂).trans h

theorem right (h : StandsAt source offset (l₁ ++ l₂)) :
    StandsAt source (offset + l₁.length) l₂ := by
  obtain ⟨rest, hr⟩ := h
  have hd : source.drop (offset + l₁.length) = l₂ ++ rest := by
    simp [← List.drop_drop, ← hr]
  rw [StandsAt, hd]
  exact List.prefix_append l₂ rest

theorem tail (h : StandsAt source offset l) : StandsAt source (offset + 1) l.tail := by
  cases l with
  | nil => exact List.nil_prefix
  | cons x l =>
    have hx : StandsAt source offset ([x] ++ l) := h
    exact hx.right

theorem head (h : StandsAt source offset (x :: l)) : source[offset]? = some x := by
  obtain ⟨rest, hr⟩ := h
  rw [← List.head?_drop, ← hr, List.cons_append, List.head?_cons]

theorem move (h : StandsAt source offset l) (he : offset = offset') : StandsAt source offset' l :=
  he ▸ h

theorem take (h : StandsAt source offset l) : (source.drop offset).take l.length = l := by
  obtain ⟨rest, hr⟩ := h
  rw [← hr, List.take_left]

theorem length_le (h : StandsAt source offset l) (hl : l ≠ []) :
    offset + l.length ≤ source.length := by
  have hp : l.length ≤ (source.drop offset).length := List.IsPrefix.length_le h
  have : 0 < l.length := List.length_pos_iff.2 hl
  rw [List.length_drop] at hp
  omega

end StandsAt

variable {source : List UInt8} {start : Nat}

/-- The value of the first element, and the elements after it. -/
theorem StandsAt.element {before after : Blanks} {value : Tree} {rest : Elements}
    (h : StandsAt source start (Elements.cons before value after rest).listed.tail) :
    StandsAt source (start + before.bytes.length) value.bytes ∧
      StandsAt source (start + (before.bytes.length + value.bytes.length + after.bytes.length) + 1)
        rest.listed.tail := by
  rw [Elements.listed, List.tail_cons] at h
  exact ⟨h.right.left, h.right.right.right.tail.move (by omega)⟩

/-- The key of the first member, its value, and the members after it. -/
theorem StandsAt.member {before afterKey beforeValue after : Blanks} {key : Body} {value : Tree}
    {rest : Members}
    (h : StandsAt source start
      (Members.cons before key afterKey beforeValue value after rest).listed.tail) :
    StandsAt source (start + before.bytes.length + 1) key.bytes ∧
      StandsAt source (start + (before.bytes.length + key.bytes.length + afterKey.bytes.length +
        beforeValue.bytes.length + 3)) value.bytes ∧
      StandsAt source (start + (before.bytes.length + key.bytes.length + afterKey.bytes.length +
        beforeValue.bytes.length + 3 + value.bytes.length + after.bytes.length) + 1)
          rest.listed.tail := by
  rw [Members.listed, List.tail_cons] at h
  have hk := h.right.tail
  have hv := hk.right.tail.right.tail.right
  exact ⟨hk.left, hv.left.move (by omega), hv.right.right.tail.move (by omega)⟩

theorem Document.standsAt_root (d : Document) :
    StandsAt d.bytes d.before.bytes.length d.root.bytes := by
  simpa using (StandsAt.all d.bytes).right.left

/-- The bytes that a token covers. -/
def Token.text (source : List UInt8) (t : Token) : List UInt8 :=
  (source.drop t.start).take (t.stop - t.start)

theorem StandsAt.text {l : List UInt8} (h : StandsAt source start l) (kind : Kind) (size : Nat)
    (parent : Option Nat) :
    Token.text source ⟨kind, start, start + l.length, size, parent⟩ = l := by
  rw [Token.text, Nat.add_sub_cancel_left, h.take]

theorem IsLiteral.ne_nil {l : List UInt8} (h : IsLiteral l) : l ≠ [] := by
  cases h with
  | number _ hw => simp [hw.1.1]
  | _ => simp

theorem Tree.bytes_ne_nil (v : Tree) : v.bytes ≠ [] := by
  cases v with
  | primitive literal => exact literal.valid.ne_nil
  | _ => simp [Tree.bytes]

mutual

/-- The spans of the nodes of a value hold what the nodes stand on. -/
theorem Tree.map_text_tokens : ∀ (v : Tree) {start : Nat} (index : Nat) (parent : Option Nat),
    StandsAt source start v.bytes →
      (v.tokens start index parent).map (·.text source) = v.covered
  | .string body, start, _, _, h => by
    have hb : StandsAt source (start + 1) body.bytes := h.tail.left
    rw [Tree.tokens, List.map_singleton, hb.text, Tree.covered]
  | .primitive literal, start, _, _, h => by
    have hb : StandsAt source start literal.bytes := h
    rw [Tree.tokens, List.map_singleton, hb.text, Tree.covered]
  | .array inside elements, start, index, _, h => by
    have hin : StandsAt source (start + 1 + inside.bytes.length) elements.listed.tail :=
      h.tail.right.left
    rw [Tree.tokens, List.map_cons, h.text, elements.map_text_tokens _ _ hin, Tree.covered]
  | .object inside members, start, index, _, h => by
    have hin : StandsAt source (start + 1 + inside.bytes.length) members.listed.tail :=
      h.tail.right.left
    rw [Tree.tokens, List.map_cons, h.text, members.map_text_tokens _ _ hin, Tree.covered]

theorem Elements.map_text_tokens : ∀ (es : Elements) {start : Nat} (index array : Nat),
    StandsAt source start es.listed.tail →
      (es.tokens start index array).map (·.text source) = es.covered
  | .nil, _, _, _, _ => rfl
  | .cons before value after rest, start, index, array, h => by
    obtain ⟨hv, hr⟩ := h.element
    rw [Elements.tokens, List.map_append, value.map_text_tokens _ _ hv,
      rest.map_text_tokens _ _ hr, Elements.covered]

theorem Members.map_text_tokens : ∀ (ms : Members) {start : Nat} (index object : Nat),
    StandsAt source start ms.listed.tail →
      (ms.tokens start index object).map (·.text source) = ms.covered
  | .nil, _, _, _, _ => rfl
  | .cons before key afterKey beforeValue value after rest, start, index, object, h => by
    obtain ⟨hk, hv, hr⟩ := h.member
    rw [Members.tokens, List.map_cons, List.map_append, hk.text, value.map_text_tokens _ _ hv,
      rest.map_text_tokens _ _ hr, Members.covered]

end

end ChatLink.Json
