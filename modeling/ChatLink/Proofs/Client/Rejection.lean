import ChatLink.Client.Service
import ChatLink.Proofs.Json.Lookup
import ChatLink.Proofs.Json.Words

/-!
# Frames that are refused

A frame that does not consist of words that may stand where they do is no event, and a client that
consumes it does nothing (`Frame.decode_of_not_isWorded`) : strings that do not end, bad escapes,
bytes that begin no word, brackets that are left open or closed by one of another kind, containers
and literals in the place of keys or behind the value of a key are all found. That is not all of the
grammar. In `Frame.doubled` the value of a key is followed by a second one, a string, so this is no
text of a document (`Frame.doubled_ne_bytes`), and still it is an event.
-/

namespace ChatLink

open Json

namespace Json

mutual

/-- In a well-formed text a string is a key with one value, or no key. -/
theorem Tree.size_le_one : ∀ (v : Tree) (start index : Nat) (parent : Option Nat),
    ∀ t ∈ v.tokens start index parent, t.kind = .string → t.size ≤ 1
  | .string body, _, _, _, t, ht, _ => by
    obtain rfl := List.mem_singleton.1 ht
    exact Nat.zero_le _
  | .primitive literal, _, _, _, t, ht, hk => by
    obtain rfl := List.mem_singleton.1 ht
    cases hk
  | .array inside elements, _, _, _, t, ht, hk => by
    rw [Tree.tokens, List.mem_cons] at ht
    rcases ht with rfl | ht
    · cases hk
    · exact elements.size_le_one _ _ _ t ht hk
  | .object inside members, _, _, _, t, ht, hk => by
    rw [Tree.tokens, List.mem_cons] at ht
    rcases ht with rfl | ht
    · cases hk
    · exact members.size_le_one _ _ _ t ht hk

theorem Elements.size_le_one : ∀ (es : Elements) (start index array : Nat),
    ∀ t ∈ es.tokens start index array, t.kind = .string → t.size ≤ 1
  | .nil, _, _, _, t, ht, _ => by simp [Elements.tokens] at ht
  | .cons before value after rest, _, _, _, t, ht, hk => by
    rw [Elements.tokens, List.mem_append] at ht
    rcases ht with ht | ht
    · exact value.size_le_one _ _ _ t ht hk
    · exact rest.size_le_one _ _ _ t ht hk

theorem Members.size_le_one : ∀ (ms : Members) (start index object : Nat),
    ∀ t ∈ ms.tokens start index object, t.kind = .string → t.size ≤ 1
  | .nil, _, _, _, t, ht, _ => by simp [Members.tokens] at ht
  | .cons before key afterKey beforeValue value after rest, _, _, _, t, ht, hk => by
    rw [Members.tokens, List.mem_cons, List.mem_append] at ht
    rcases ht with rfl | ht | ht
    · exact Nat.le_refl _
    · exact value.size_le_one _ _ _ t ht hk
    · exact rest.size_le_one _ _ _ t ht hk

end

end Json

namespace Frame

/-- A frame that does not consist of words in their places is refused, and changes nothing. -/
theorem decode_of_not_isWorded {frame : List UInt8} (h : ¬ IsWorded frame) :
    (∃ fault, decode frame = .error (.ofLex defaultCapacity fault)) ∧
      ∀ c : Client, c.deliver frame = (c, []) := by
  have hdecode : ∃ fault, decode frame = .error (.ofLex defaultCapacity fault) := by
    rw [decode, decodeWithin]
    cases ht : tokenize defaultCapacity frame with
    | error fault => exact ⟨fault, rfl⟩
    | ok tokens => exact absurd (isWorded_of_tokenize ht) h
  refine ⟨hdecode, fun c => ?_⟩
  obtain ⟨fault, hf⟩ := hdecode
  rw [Client.deliver, hf]

/-- A brace that is left open. -/
theorem not_isWorded_brace : ¬ IsWorded [0x7b] := by
  rintro ⟨words, o, hw, hn, ho⟩
  rcases hw.of_singleton with ⟨hb, -⟩ | ⟨w, hl, rfl⟩
  · revert hb
    unfold IsBlank
    decide
  · cases hl with
    | openObject =>
      cases hn
      cases ho
    | primitive hl =>
      obtain ⟨hfirst, -⟩ := hl
      revert hfirst
      decide

theorem decode_of_not_isWorded_brace :
    let c : Client :=
      { Client.new .loopback ⟨"ws://h", none, 1⟩ with callback := some ⟨"f", [.echo]⟩ }
    ¬ IsWorded [0x7b] ∧ (∃ fault, decode [0x7b] = .error (.ofLex defaultCapacity fault)) ∧
      c.deliver [0x7b] = (c, []) := by
  obtain ⟨hdecode, hdeliver⟩ := decode_of_not_isWorded not_isWorded_brace
  exact ⟨not_isWorded_brace, hdecode, hdeliver _⟩

/-- The frame `{"type":"event","event":"message","data":{"room":"r","user":"u","text":"t" "x"}}`. -/
def doubled : List UInt8 :=
  ("\x7b\"type\":\"event\",\"event\":\"message\",\"data\":\x7b" ++
    "\"room\":\"r\",\"user\":\"u\",\"text\":\"t\" \"x\"\x7d\x7d").toUTF8.toList

theorem decode_doubled : decode doubled = .ok ⟨"r", "u", "t", 0⟩ := by
  decide +kernel

/-- The value of `text` is followed by another one, so no text of a document is this frame. -/
theorem doubled_ne_bytes (d : Document) : d.bytes ≠ doubled := by
  have hsize : ∃ t ∈ (tokenize defaultCapacity doubled).toOption.getD #[],
      t.kind = .string ∧ t.size = 2 := by
    decide +kernel
  intro hd
  obtain ⟨t, ht, hk, hs⟩ := hsize
  rw [← hd, tokenize_bytes] at ht
  split at ht
  · have := d.root.size_le_one _ _ _ t (List.mem_toArray.1 ht) hk
    omega
  · exact absurd ht (Array.not_mem_empty t)

/-- Not every frame that is no text of a document is refused. -/
theorem not_forall_decode_error :
    ¬ ∀ frame : List UInt8, (∀ d : Document, d.bytes ≠ frame) →
      ∃ fault, decode frame = .error fault := by
  intro hall
  obtain ⟨fault, hf⟩ := hall doubled doubled_ne_bytes
  cases decode_doubled.symm.trans hf

end Frame

end ChatLink
