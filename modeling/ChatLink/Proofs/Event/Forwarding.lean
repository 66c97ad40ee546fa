import ChatLink.Event.Record
import ChatLink.Proofs.Event.RoundTrip

/-!
# Events that are sent on

Somebody who holds the record of an event can send it on as it is : the record is the data of an
event message (`Event.forwarded`). Records are written by rules of their own, with other digits for
control characters than a frame has. Decoding gives the event back all the same
(`Frame.decode_forwarded`), since a record is the text of an object whose fields stand for the
event's.
-/

namespace ChatLink

open Json Text

/-- The frame that has the record of an event for its data. -/
def Event.forwarded (e : Event) : String :=
  "\x7b\"type\":\"event\",\"event\":\"message\",\"data\":" ++ e.record ++ "\x7d"

namespace Json

/-- The body of a text in a record. -/
def Body.recorded (text : String) : Body := .ofTextWith isHexDigit_lower text

theorem unescape_recorded (text : String) : unescape (Body.recorded text).bytes = text :=
  unescape_ofTextWith isHexDigit_lower text

/-- A record has a text between quotes. -/
theorem bytes_quote (text : String) :
    (quote text).toUTF8.toList = [0x22] ++ (Body.recorded text).bytes ++ [0x22] := by
  have hquote : "\"".toUTF8.toList = [0x22] := by
    rw [Utf8.toList_toUTF8]
    rfl
  rw [quote, Utf8.toList_toUTF8_append, bytes_escapeOntoWith, hquote]
  rfl

end Json

namespace Frame

/-- The record of an event is the text of an object with its fields in order. -/
theorem bytes_record (e : Event) :
    e.record.toUTF8.toList = (dataTree (.recorded e.room) (.recorded e.user) (.recorded e.text)
      (.ofInt e.timestamp.toInt)).bytes := by
  have happend : ∀ a b c d e f g h i : String,
      (a ++ b ++ c ++ d ++ e ++ f ++ g ++ h ++ i).toUTF8.toList = a.toUTF8.toList ++
        b.toUTF8.toList ++ c.toUTF8.toList ++ d.toUTF8.toList ++ e.toUTF8.toList ++
          f.toUTF8.toList ++ g.toUTF8.toList ++ h.toUTF8.toList ++ i.toUTF8.toList := by
    intros
    simp only [Utf8.toList_toUTF8_append]
  have hroom : "\x7b\"room\":\"".toUTF8.toList = "\x7b\"room\":".toUTF8.toList ++ [0x22] := by
    rw [Utf8.toList_toUTF8, Utf8.toList_toUTF8]
    rfl
  have huser : "\",\"user\":\"".toUTF8.toList =
      [0x22] ++ ",\"user\":".toUTF8.toList ++ [0x22] := by
    rw [Utf8.toList_toUTF8, Utf8.toList_toUTF8]
    rfl
  have htext : "\",\"text\":\"".toUTF8.toList =
      [0x22] ++ ",\"text\":".toUTF8.toList ++ [0x22] := by
    rw [Utf8.toList_toUTF8, Utf8.toList_toUTF8]
    rfl
  have hts : "\",\"ts\":".toUTF8.toList = [0x22] ++ ",\"ts\":".toUTF8.toList := by
    rw [Utf8.toList_toUTF8, Utf8.toList_toUTF8]
    rfl
  refine (happend _ _ _ _ _ _ _ _ _).trans ?_
  rw [bytes_dataTree, hroom, huser, htext, hts, bytes_quote, bytes_quote, bytes_quote]
  simp only [List.append_assoc]
  rfl

/-- What is decoded from the text of an event message. -/
theorem decode_messageText (room user text : Body) (timestamp : Literal) :
    decode (messageText (dataTree room user text timestamp)).bytes =
      .ok ⟨unescape room.bytes, unescape user.bytes, unescape text.bytes,
        Timestamp.leading timestamp.bytes⟩ :=
  decodeWithin_of_eventOf (by rw [count_messageText]; decide) (eventOf_messageText ..)

/-- An event that is sent on is decoded to itself. -/
theorem decode_forwarded (e : Event) : decode e.forwarded.toUTF8.toList = .ok e := by
  have happend : ∀ (a b c : String) (l : List UInt8), b.toUTF8.toList = l →
      (a ++ b ++ c).toUTF8.toList = a.toUTF8.toList ++ l ++ c.toUTF8.toList := by
    rintro a b c l rfl
    simp only [Utf8.toList_toUTF8_append]
  have hbytes : e.forwarded.toUTF8.toList = (messageText (dataTree (.recorded e.room)
      (.recorded e.user) (.recorded e.text) (.ofInt e.timestamp.toInt))).bytes :=
    (happend _ _ _ _ (bytes_record e)).trans (bytes_messageText _).symm
  rw [hbytes, decode_messageText, unescape_recorded, unescape_recorded, unescape_recorded,
    Literal.ofInt, Timestamp.leading_toString]

end Frame

end ChatLink
