import ChatLink.Proofs.Event.Decoding
import ChatLink.Proofs.Event.Timestamp
import ChatLink.Proofs.Json.Escaping

/-!
# Frames that are written for events

`Event.frame` writes an event as a server does, with its texts escaped and its timestamp in decimal.
Decoding gives the event back (`Frame.decode_frame`). The frame is the text of a document
(`Event.bytes_frame`), whose value is an event by `Frame.eventOf` : what is written for a text is a
body that stands for the text, and what is written for a timestamp is a number that is read as the
timestamp.
-/

namespace ChatLink

open Json Text

/-! ## Writing -/

/-- The data of an event, without blanks. -/
def Event.data (e : Event) : String :=
  "\x7b\"room\":\"" ++ escape e.room ++ "\",\"user\":\"" ++ escape e.user ++ "\",\"text\":\""
    ++ escape e.text ++ "\",\"ts\":" ++ toString e.timestamp.toInt ++ "\x7d"

/-- The frame of an event, without blanks. -/
def Event.frame (e : Event) : String :=
  "\x7b\"type\":\"event\",\"event\":\"message\",\"data\":" ++ e.data ++ "\x7d"

/-! ## Frames as documents -/

namespace Frame

/-- A member without blanks. -/
def member (key : String) (value : Tree) (rest : Members) : Members :=
  .cons .none (.ofText key) .none .none value .none rest

/-- The data of an event from its fields as they are written. -/
def dataTree (room user text : Body) (timestamp : Literal) : Tree :=
  .object .none (member "room" (.string room) (member "user" (.string user)
    (member "text" (.string text) (member "ts" (.primitive timestamp) .nil))))

/-- The text of an event message with the given data. -/
def messageText (data : Tree) : Document where
  before := .none
  root := .object .none (member "type" (.string (.ofText "event"))
    (member "event" (.string (.ofText "message")) (member "data" data .nil)))
  after := .none

theorem bytes_messageText (data : Tree) :
    (messageText data).bytes =
      "\x7b\"type\":\"event\",\"event\":\"message\",\"data\":".toUTF8.toList ++ data.bytes ++
        "\x7d".toUTF8.toList := by
  have hopen : "\x7b\"type\":\"event\",\"event\":\"message\",\"data\":".toUTF8.toList =
      0x7b :: 0x22 :: ((Body.ofText "type").bytes ++ 0x22 :: 0x3a :: 0x22 ::
        ((Body.ofText "event").bytes ++ 0x22 :: 0x2c :: 0x22 ::
          ((Body.ofText "event").bytes ++ 0x22 :: 0x3a :: 0x22 ::
            ((Body.ofText "message").bytes ++ 0x22 :: 0x2c :: 0x22 ::
              ((Body.ofText "data").bytes ++ [0x22, 0x3a]))))) := by
    rw [Utf8.toList_toUTF8]
    rfl
  have hclose : "\x7d".toUTF8.toList = [0x7d] := by
    rw [Utf8.toList_toUTF8]
    rfl
  rw [hopen, hclose]
  simp [messageText, member, Document.bytes, Tree.bytes, Members.listed, Blanks.none]

theorem bytes_dataTree (room user text : Body) (timestamp : Literal) :
    (dataTree room user text timestamp).bytes =
      "\x7b\"room\":\"".toUTF8.toList ++ room.bytes ++ "\",\"user\":\"".toUTF8.toList ++
        user.bytes ++ "\",\"text\":\"".toUTF8.toList ++ text.bytes ++
          "\",\"ts\":".toUTF8.toList ++ timestamp.bytes ++ "\x7d".toUTF8.toList := by
  have hroom : "\x7b\"room\":\"".toUTF8.toList =
      0x7b :: 0x22 :: ((Body.ofText "room").bytes ++ [0x22, 0x3a, 0x22]) := by
    rw [Utf8.toList_toUTF8]
    rfl
  have huser : "\",\"user\":\"".toUTF8.toList =
      0x22 :: 0x2c :: 0x22 :: ((Body.ofText "user").bytes ++ [0x22, 0x3a, 0x22]) := by
    rw [Utf8.toList_toUTF8]
    rfl
  have htext : "\",\"text\":\"".toUTF8.toList =
      0x22 :: 0x2c :: 0x22 :: ((Body.ofText "text").bytes ++ [0x22, 0x3a, 0x22]) := by
    rw [Utf8.toList_toUTF8]
    rfl
  have hts : "\",\"ts\":".toUTF8.toList =
      0x22 :: 0x2c :: 0x22 :: ((Body.ofText "ts").bytes ++ [0x22, 0x3a]) := by
    rw [Utf8.toList_toUTF8]
    rfl
  have hclose : "\x7d".toUTF8.toList = [0x7d] := by
    rw [Utf8.toList_toUTF8]
    rfl
  rw [hroom, huser, htext, hts, hclose]
  simp [dataTree, member, Tree.bytes, Members.listed, Blanks.none]

/-! ## What the documents say -/

/-- A member is found by its key, if nothing in the key is escaped. -/
theorem first?_member {key : String} (hk : (Body.ofText key).bytes = key.toUTF8.toList)
    (sought : String) (value : Tree) (rest : Members) :
    (Tree.object .none (member key value rest)).value.first? sought =
      if sought = key then some value.value else (Tree.object .none rest).value.first? sought := by
  simp only [member, Tree.value, Members.values, Value.first?, List.lookup_cons, hk]
  by_cases h : sought = key
  · simp [h]
  · have hb : sought.toUTF8.toList ≠ key.toUTF8.toList := fun hb => h (Utf8.toList_toUTF8_inj.1 hb)
    rw [if_neg h, beq_false_of_ne hb]

theorem first?_messageText (data : Tree) :
    (messageText data).root.value.first? "type" = some (.string "event".toUTF8.toList) ∧
      (messageText data).root.value.first? "event" = some (.string "message".toUTF8.toList) ∧
        (messageText data).root.value.first? "data" = some data.value := by
  have hplain : ∀ key ∈ ["type", "event", "data", "message"],
      (Body.ofText key).bytes = key.toUTF8.toList := by
    simp only [Utf8.toList_toUTF8, Body.ofText]
    decide
  obtain ⟨htype, hevent, hdata, hmessage, -⟩ := by simpa only [List.forall_mem_cons] using hplain
  rw [← hevent, ← hmessage]
  simp only [messageText, first?_member htype, first?_member hevent, first?_member hdata]
  exact ⟨rfl, rfl, rfl⟩

theorem first?_dataTree (room user text : Body) (timestamp : Literal) :
    (dataTree room user text timestamp).value.first? "room" = some (.string room.bytes) ∧
      (dataTree room user text timestamp).value.first? "user" = some (.string user.bytes) ∧
        (dataTree room user text timestamp).value.first? "text" = some (.string text.bytes) ∧
          (dataTree room user text timestamp).value.first? "ts" =
            some (.primitive timestamp.bytes) := by
  have hplain : ∀ key ∈ ["room", "user", "text", "ts"],
      (Body.ofText key).bytes = key.toUTF8.toList := by
    simp only [Utf8.toList_toUTF8, Body.ofText]
    decide
  obtain ⟨hroom, huser, htext, hts, -⟩ := by simpa only [List.forall_mem_cons] using hplain
  simp only [dataTree, first?_member hroom, first?_member huser, first?_member htext,
    first?_member hts]
  exact ⟨rfl, rfl, rfl, rfl⟩

/-- The event of a message with the data of an event. -/
theorem eventOf_messageText (room user text : Body) (timestamp : Literal) :
    eventOf (messageText (dataTree room user text timestamp)).root.value =
      .ok ⟨unescape room.bytes, unescape user.bytes, unescape text.bytes,
        Timestamp.leading timestamp.bytes⟩ := by
  obtain ⟨htype, hevent, hdata⟩ := first?_messageText (dataTree room user text timestamp)
  obtain ⟨hroom, huser, htext, hts⟩ := first?_dataTree room user text timestamp
  have htags : (isTagged (messageText (dataTree room user text timestamp)).root.value "type" "event"
      && isTagged (messageText (dataTree room user text timestamp)).root.value "event" "message") =
        true := by
    rw [isTagged, isTagged, htype, hevent]
    simp [Value.body?]
  have hfound : ((messageText (dataTree room user text timestamp)).root.value.first? "data").filter
      Value.isObject = some (dataTree room user text timestamp).value := by
    rw [hdata]
    rfl
  rw [eventOf, htags, hfound, if_neg (by simp [messageText, Tree.value, Value.isObject]),
    if_neg (by simp)]
  simp only [textOf_eq_ok .room hroom, textOf_eq_ok .user huser, textOf_eq_ok .text htext,
    timestampOf_eq hts]
  rfl

theorem count_messageText (room user text : Body) (timestamp : Literal) :
    (messageText (dataTree room user text timestamp)).count = 15 := by
  simp only [messageText, dataTree, member, Document.count, Tree.count, Members.count]

-- The appends below are taken apart by terms, since a rewrite would compare the literals with them.

theorem bytes_data (e : Event) :
    e.data.toUTF8.toList = (dataTree (.ofText e.room) (.ofText e.user) (.ofText e.text)
      (.ofInt e.timestamp.toInt)).bytes := by
  have happend : ∀ a b c d e f g h i : String,
      (a ++ b ++ c ++ d ++ e ++ f ++ g ++ h ++ i).toUTF8.toList = a.toUTF8.toList ++
        b.toUTF8.toList ++ c.toUTF8.toList ++ d.toUTF8.toList ++ e.toUTF8.toList ++
          f.toUTF8.toList ++ g.toUTF8.toList ++ h.toUTF8.toList ++ i.toUTF8.toList := by
    intros
    simp only [Utf8.toList_toUTF8_append]
  have hbytes := bytes_dataTree (.ofText e.room) (.ofText e.user) (.ofText e.text)
    (.ofInt e.timestamp.toInt)
  rw [Body.bytes_ofText, Body.bytes_ofText, Body.bytes_ofText] at hbytes
  exact (happend _ _ _ _ _ _ _ _ _).trans hbytes.symm

theorem bytes_frame (e : Event) :
    e.frame.toUTF8.toList = (messageText (dataTree (.ofText e.room) (.ofText e.user)
      (.ofText e.text) (.ofInt e.timestamp.toInt))).bytes := by
  have happend : ∀ (a b c : String) (l : List UInt8), b.toUTF8.toList = l →
      (a ++ b ++ c).toUTF8.toList = a.toUTF8.toList ++ l ++ c.toUTF8.toList := by
    rintro a b c l rfl
    simp only [Utf8.toList_toUTF8_append]
  exact (happend _ _ _ _ (bytes_data e)).trans (bytes_messageText _).symm

/-- A frame that is written for an event is decoded to that event. -/
theorem decode_frame (e : Event) : decode e.frame.toUTF8.toList = .ok e := by
  rw [bytes_frame, decode]
  refine decodeWithin_of_eventOf (by rw [count_messageText]; decide) ?_
  rw [eventOf_messageText, unescape_ofText, unescape_ofText, unescape_ofText, Literal.ofInt,
    Timestamp.leading_toString]

end Frame

end ChatLink
