import ChatLink.Event.Frame
import ChatLink.Proofs.Json.Listing
import ChatLink.Proofs.Json.Lookup

/-!
# Events of trees

`Frame.eventOf` says which event a JSON value is, by the value alone : no tokens, no offsets, and
the first member with a key is found by `List.lookup`. `Frame.mapError_decodeWithin` : the decoder,
which sees bytes and tokens only, gives this event for every text of every value, whatever the
blanks, the order of members and their number, if the capacity allows for the nodes of the text.
-/

namespace ChatLink

open Json

namespace Json.Value

/-- The body of a string. -/
def body? : Value → Option (List UInt8)
  | string body => some body
  | _ => none

/-- The literal of a number or a name. -/
def literal? : Value → Option (List UInt8)
  | primitive literal => some literal
  | _ => none

/-- Whether a value has members. -/
def isObject : Value → Bool
  | object _ => true
  | _ => false

end Json.Value

namespace Frame

/-! ## The event of a value -/

/-- The text of a field : the first member with its key, which must be a string. -/
def textOf (data : Value) (field : Field) : Except Error String :=
  match (data.first? field.name).bind Value.body? with
  | some body => .ok (unescape body)
  | none => .error (.incompleteEvent field)

/-- The integer at the front of the first `ts`, if that is a number or a name, and else 0. -/
def timestampOf (data : Value) : Int64 :=
  match (data.first? "ts").bind Value.literal? with
  | some literal => Timestamp.leading literal
  | none => 0

/-- The first member with the key is a string that is written so. -/
def isTagged (root : Value) (key tag : String) : Bool :=
  (root.first? key).bind Value.body? == some tag.toUTF8.toList

/-- The event that a value is. -/
def eventOf (root : Value) : Except Error Event :=
  if !root.isObject then
    .error (.unrecognizedFrame "top-level value is not an object")
  else if !(isTagged root "type" "event" && isTagged root "event" "message") then
    .error (.unrecognizedFrame "not an event/message frame")
  else
    match (root.first? "data").filter Value.isObject with
    | none => .error (.unrecognizedFrame "missing data object")
    | some data => do
      return ⟨← textOf data .room, ← textOf data .user, ← textOf data .text, timestampOf data⟩

theorem textOf_eq_ok {data : Value} {body : List UInt8} (field : Field)
    (h : data.first? field.name = some (.string body)) :
    textOf data field = .ok (unescape body) := by
  rw [textOf, h]
  rfl

theorem timestampOf_eq {data : Value} {literal : List UInt8}
    (h : data.first? "ts" = some (.primitive literal)) :
    timestampOf data = Timestamp.leading literal := by
  rw [timestampOf, h]
  rfl

/-! ## Reading tokens -/

variable {c : Cursor} {i : Nat} {v : Value}

theorem kind?_eq_object (h : c.Spells i v) : (c.kind? i == some .object) = v.isObject := by
  rw [h.kind?]
  cases v <;> rfl

theorem member?_string (h : c.Spells i v) (key : String) :
    member? c i key .string = (v.first? key).bind Value.body? := by
  have hf := h.find? key
  rw [member?]
  generalize c.find? i key = found, v.first? key = value at hf
  cases hf with
  | none => rfl
  | @some j w hw =>
    simp only [Option.bind_eq_bind, Option.bind_some, hw.kind?]
    cases w with
    | string body => exact hw.raw?_string
    | _ => rfl

theorem member?_primitive (h : c.Spells i v) (key : String) :
    member? c i key .primitive = (v.first? key).bind Value.literal? := by
  have hf := h.find? key
  rw [member?]
  generalize c.find? i key = found, v.first? key = value at hf
  cases hf with
  | none => rfl
  | @some j w hw =>
    simp only [Option.bind_eq_bind, Option.bind_some, hw.kind?]
    cases w with
    | primitive literal => exact hw.raw?_primitive
    | _ => rfl

theorem holdsText_eq (h : c.Spells i v) (key tag : String) :
    holdsText c i key tag = isTagged v key tag := by
  have hf := h.find? key
  rw [holdsText, isTagged]
  generalize c.find? i key = found, v.first? key = value at hf
  cases hf with
  | none => rfl
  | @some j w hw =>
    rw [Option.any_some, Cursor.isString, hw.kind?, Option.bind_some]
    cases w with
    | string body =>
      rw [hw.raw?_string]
      rfl
    | _ => rfl

theorem mapError_textField (h : c.Spells i v) (field : Field) :
    (textField c i field).mapError Fault.toError = textOf v field := by
  rw [textField, textOf, member?_string h]
  cases (v.first? field.name).bind Value.body? <;> rfl

theorem mapError_bind {ε ε' α β : Type} (x : Except ε α) (f : α → Except ε β) (g : ε → ε') :
    (x >>= f).mapError g = x.mapError g >>= fun a => (f a).mapError g := by
  cases x <;> rfl

/-- What is left to read when the data object is found. -/
def readData (c : Cursor) (data : Nat) : Except Fault Event := do
  return ⟨← textField c data .room, ← textField c data .user, ← textField c data .text,
    ((member? c data "ts" .primitive).map Timestamp.leading).getD 0⟩

/-- A data object lacks a field, or it has all that is needed. -/
theorem readData_cases (c : Cursor) (data : Nat) :
    (∃ field, readData c data = .error (.incomplete field)) ∨
      ∃ room user text, readData c data = .ok
        ⟨room, user, text, ((member? c data "ts" .primitive).map Timestamp.leading).getD 0⟩ := by
  have hfield : ∀ field, textField c data field = .error (.incomplete field) ∨
      ∃ text, textField c data field = .ok text := by
    intro field
    unfold textField
    split
    · exact .inr ⟨_, rfl⟩
    · exact .inl rfl
  unfold readData
  rcases hfield .room with hroom | ⟨room, hroom⟩
  · rw [hroom]
    exact .inl ⟨_, rfl⟩
  · rcases hfield .user with huser | ⟨user, huser⟩
    · rw [hroom, huser]
      exact .inl ⟨_, rfl⟩
    · rcases hfield .text with htext | ⟨text, htext⟩
      · rw [hroom, huser, htext]
        exact .inl ⟨_, rfl⟩
      · rw [hroom, huser, htext]
        exact .inr ⟨_, _, _, rfl⟩

/-- The checks in their order. -/
theorem read_eq (c : Cursor) : read c =
    if c.kind? 0 ≠ some .object then .error .notAnObject
    else if !(holdsText c 0 "type" "event" && holdsText c 0 "event" "message") then
      .error .notAMessage
    else
      match (c.find? 0 "data").filter (c.kind? · == some .object) with
      | none => .error .noData
      | some data => readData c data := by
  rw [read]
  by_cases hk : c.kind? 0 ≠ some .object
  · rw [if_pos hk, if_pos hk]
    rfl
  · rw [if_neg hk, if_neg hk]
    cases holdsText c 0 "type" "event" && holdsText c 0 "event" "message" with
    | false => rfl
    | true => cases (c.find? 0 "data").filter (c.kind? · == some .object) <;> rfl

theorem mapError_readData (h : c.Spells i v) :
    (readData c i).mapError Fault.toError =
      (do return ⟨← textOf v .room, ← textOf v .user, ← textOf v .text, timestampOf v⟩) := by
  have hts : ((member? c i "ts" .primitive).map Timestamp.leading).getD 0 = timestampOf v := by
    rw [member?_primitive h, timestampOf]
    cases (v.first? "ts").bind Value.literal? <;> rfl
  simp only [readData, mapError_bind, mapError_textField h, hts]
  rfl

theorem mapError_read (h : c.Spells 0 v) : (read c).mapError Fault.toError = eventOf v := by
  have hk : (c.kind? 0 ≠ some .object) ↔ v.isObject = false := by
    rw [← kind?_eq_object h, beq_eq_false_iff_ne]
  have hd := h.find? "data"
  rw [read, eventOf, holdsText_eq h, holdsText_eq h]
  generalize c.find? 0 "data" = found, v.first? "data" = value at hd
  cases ho : v.isObject with
  | false =>
    rw [if_pos (hk.2 ho)]
    rfl
  | true =>
    rw [if_neg (by simp [hk, ho])]
    cases isTagged v "type" "event" && isTagged v "event" "message" with
    | false => rfl
    | true =>
      cases hd with
      | none => rfl
      | @some j w hw =>
        have hj := kind?_eq_object hw
        cases hwo : w.isObject with
        | false =>
          simp only [Option.filter, hj, hwo]
          rfl
        | true =>
          simp only [Option.filter, hj, hwo]
          exact mapError_readData hw

/-- What the decoder gives for a text with room for its nodes. -/
theorem decodeWithin_of_eventOf {capacity : Nat} {d : Document} {e : Event}
    (hc : d.count ≤ capacity) (he : eventOf d.root.value = .ok e) :
    decodeWithin capacity d.bytes = .ok e := by
  have hr := mapError_read d.spells_root
  rw [decodeWithin, tokenize_bytes, if_pos hc]
  change read d.cursor = .ok e
  rw [he] at hr
  cases hread : read d.cursor with
  | ok e' =>
    rw [hread] at hr
    obtain rfl : e' = e := Except.ok.inj hr
    rfl
  | error fault =>
    rw [hread] at hr
    cases hr

/-- The decoder gives the event of the value that a text writes, if its nodes fit, and else says
that they do not. -/
theorem mapError_decodeWithin (capacity : Nat) (d : Document) :
    (decodeWithin capacity d.bytes).mapError Fault.toError =
      if d.count ≤ capacity then eventOf d.root.value else .error (.tooManyTokens capacity) := by
  rw [decodeWithin, tokenize_bytes]
  by_cases hc : d.count ≤ capacity
  · rw [if_pos hc, if_pos hc]
    exact mapError_read d.spells_root
  · rw [if_neg hc, if_neg hc]
    rfl

end Frame

end ChatLink
