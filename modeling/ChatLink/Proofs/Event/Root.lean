import ChatLink.Proofs.Event.Decoding
import ChatLink.Proofs.Json.Root

/-!
# The object that a frame begins with

A frame can have more behind its first object, and whatever it is becomes tokens too, in the array
that is searched for members. But a search in an object stops at the object's end, so that the
event depends on the first object alone (`Frame.decodeWithin_text_root`). It stays the same, or is
lost, when bytes come behind the frame (`Frame.decodeWithin_root`), and every frame that ends
inside of the object is truncated and nothing else (`Frame.decodeWithin_take`).
-/

namespace ChatLink

open Json

namespace Json.Cursor.Fronts

open ChatLink.Frame

variable {c d : Cursor} {offset i : Nat}

theorem member?_eq (h : d.Fronts c offset) (hi : i < d.tokens.size) (key : String) (kind : Kind) :
    member? c i key kind = member? d i key kind := by
  rw [member?, member?, h.find?_eq hi]
  cases hj : d.find? i key with
  | none => rfl
  | some j =>
    have hlt := lt_of_find? hj
    simp only [Option.bind_eq_bind, Option.bind_some, h.kind?_eq hlt, h.raw?_eq hlt]

theorem holdsText_eq (h : d.Fronts c offset) (hi : i < d.tokens.size) (key value : String) :
    holdsText c i key value = holdsText d i key value := by
  rw [holdsText, holdsText, h.find?_eq hi]
  cases hj : d.find? i key with
  | none => rfl
  | some j => rw [Option.any_some, Option.any_some, h.isString_eq (lt_of_find? hj)]

theorem readData_eq (h : d.Fronts c offset) (hi : i < d.tokens.size) :
    readData c i = readData d i := by
  simp only [readData, textField, h.member?_eq hi]

/-- The event in the part is the event in the text. -/
theorem read_eq (h : d.Fronts c offset) (hi : 0 < d.tokens.size) : read c = read d := by
  rw [Frame.read_eq, Frame.read_eq, h.kind?_eq hi, h.holdsText_eq hi, h.holdsText_eq hi,
    h.find?_eq hi]
  cases hj : d.find? 0 "data" with
  | none => rfl
  | some j =>
    have hlt := lt_of_find? hj
    rw [Option.filter_some, Option.filter_some, h.kind?_eq hlt]
    split
    · rfl
    · split
      · rfl
      · cases d.kind? j == some .object with
        | false => rfl
        | true => exact h.readData_eq hlt

end Json.Cursor.Fronts

namespace Frame

variable {capacity : Nat} {frame : List UInt8} {tokens : Array Token} {root : Token} {e : Event}

/-- Behind its first container nothing of a frame is looked at. -/
theorem decodeWithin_text_root (h : tokenize capacity frame = .ok tokens)
    (hroot : tokens[0]? = some root) (hk : root.kind.isContainer) :
    decodeWithin capacity (root.text frame) = decodeWithin capacity frame := by
  obtain ⟨inner, hinner, hsize, hfronts⟩ := exists_fronts_root h hroot hk
  rw [decodeWithin, decodeWithin, h, hinner]
  exact (hfronts.read_eq hsize).symm

/-- A frame that carries an event begins with an object. -/
theorem exists_root_of_eq_ok (h : decodeWithin capacity frame = .ok e) :
    ∃ tokens root, tokenize capacity frame = .ok tokens ∧ tokens[0]? = some root ∧
      root.kind = .object := by
  rw [decodeWithin] at h
  split at h
  · cases h
  · next tokens ht =>
    rw [read_eq] at h
    split at h
    · cases h
    · next hkind =>
      obtain ⟨root, hroot, hk⟩ := Option.map_eq_some_iff.1 (not_not.1 hkind)
      exact ⟨tokens, root, ht, hroot, hk⟩

/-- The event of a frame is the one of the first token by itself, and with more bytes behind the
frame it is the same, or there are no tokens. -/
theorem decodeWithin_root (h : decodeWithin capacity frame = .ok e) :
    ∃ tokens root, tokenize capacity frame = .ok tokens ∧ tokens[0]? = some root ∧
      decodeWithin capacity (root.text frame) = .ok e ∧
      ∀ more, decodeWithin capacity (frame ++ more) = .ok e ∨
        ∃ fault, tokenize capacity (frame ++ more) = .error fault ∧
          decodeWithin capacity (frame ++ more) = .error (.ofLex capacity fault) ∧
          (Fault.ofLex capacity fault).toError.isDecodeError := by
  obtain ⟨tokens, root, ht, hroot, hkind⟩ := exists_root_of_eq_ok h
  have hk : root.kind.isContainer := by
    rw [hkind]
    rfl
  refine ⟨tokens, root, ht, hroot, (decodeWithin_text_root ht hroot hk).trans h, fun more => ?_⟩
  cases hmore : tokenize capacity (frame ++ more) with
  | error fault =>
    refine .inr ⟨fault, rfl, ?_, ?_⟩
    · rw [decodeWithin, hmore]
    · cases fault <;> rfl
  | ok tokens' =>
    left
    obtain ⟨root', hroot', hkind', hstart, hstop⟩ := exists_getElem?_append ht hmore hroot hk
    have hwithin := (nested_of_tokenize ht).2 root (Array.mem_of_getElem? hroot)
    have htext : root'.text (frame ++ more) = root.text frame := by
      rw [Token.text, Token.text, hstart, hstop, List.drop_append_of_le_length (by omega),
        List.take_append_of_le_length (by rw [List.length_drop]; omega)]
    rw [← decodeWithin_text_root hmore hroot' (hkind' ▸ hk), htext,
      decodeWithin_text_root ht hroot hk, h]

/-- The frame ` {"type":"event","event":"message","data":{"room":"r","user":"u","text":"t"}},[1]`,
an event with an array behind it. -/
def followed : List UInt8 :=
  (" \x7b\"type\":\"event\",\"event\":\"message\",\"data\":\x7b" ++
    "\"room\":\"r\",\"user\":\"u\",\"text\":\"t\"\x7d\x7d,[1]").toUTF8.toList

theorem decodeWithin_followed : decodeWithin 15 followed = .ok ⟨"r", "u", "t", 0⟩ := by
  decide +kernel

theorem root_followed (ht : tokenize 15 followed = .ok tokens) (hroot : tokens[0]? = some root) :
    root = ⟨.object, 1, 77, 3, none⟩ := by
  have h : (tokenize 15 followed).toOption.bind (·[0]?) = some ⟨.object, 1, 77, 3, none⟩ := by
    decide +kernel
  rw [ht] at h
  exact Option.some.inj (hroot.symm.trans h)

theorem decodeWithin_root_followed :
    decodeWithin 15 followed = .ok ⟨"r", "u", "t", 0⟩ ∧
      decodeWithin 15 ((followed.drop 1).take 76) = .ok ⟨"r", "u", "t", 0⟩ ∧
        ∀ more, decodeWithin 15 (followed ++ more) = .ok ⟨"r", "u", "t", 0⟩ ∨
          ∃ fault, tokenize 15 (followed ++ more) = .error fault := by
  obtain ⟨tokens, root, ht, hroot, halone, hmore⟩ := decodeWithin_root decodeWithin_followed
  obtain rfl := root_followed ht hroot
  exact ⟨decodeWithin_followed, halone, fun more =>
    (hmore more).imp_right fun ⟨fault, hfault, _⟩ => ⟨fault, hfault⟩⟩

/-- A frame that is cut inside of its first object is truncated. -/
theorem decodeWithin_take (h : decodeWithin capacity frame = .ok e) :
    ∃ tokens root, tokenize capacity frame = .ok tokens ∧ tokens[0]? = some root ∧
      root.kind = .object ∧
      ∀ n, root.start < n → n < root.stop →
        (decodeWithin capacity (frame.take n)).mapError Fault.toError =
          .error (.unrecognizedFrame "truncated json") := by
  obtain ⟨tokens, root, ht, hroot, hkind⟩ := exists_root_of_eq_ok h
  refine ⟨tokens, root, ht, hroot, hkind, fun n hstart hstop => ?_⟩
  have hlength : (frame.take n).length = n := by
    have := ((nested_of_tokenize ht).2 root (Array.mem_of_getElem? hroot)).2
    rw [List.length_take]
    omega
  rw [← List.take_append_drop n frame] at ht
  have hcut := tokenize_of_cut ht hroot (by rw [hkind]; rfl) (by omega) (by omega)
  rw [decodeWithin, hcut]
  rfl

theorem decodeWithin_take_followed :
    decodeWithin 15 followed = .ok ⟨"r", "u", "t", 0⟩ ∧
      ∀ n, 1 < n → n < 77 → (decodeWithin 15 (followed.take n)).mapError Fault.toError =
        .error (.unrecognizedFrame "truncated json") := by
  obtain ⟨tokens, root, ht, hroot, -, hcut⟩ := decodeWithin_take decodeWithin_followed
  obtain rfl := root_followed ht hroot
  exact ⟨decodeWithin_followed, hcut⟩

end Frame

end ChatLink
