import ChatLink.Error
import ChatLink.Event
import ChatLink.Event.Timestamp
import ChatLink.Json.Cursor
import ChatLink.Json.Escape
import ChatLink.Json.Lexer

/-!
# Frames that carry events

The server sends JSON texts. The only shape that is an event is an object whose `type` is
`event`, whose `event` is `message` and whose `data` is an object with the texts `room`, `user`
and `text` and, if it likes, the number `ts`. Members may come in any order and among others; of
several members with one key the first counts.

`Frame.decode` says what the bytes of a frame mean. The checks are made in the order of the
constructors of `Frame.Fault`.
-/

namespace ChatLink.Frame

open ChatLink.Json

/-- Why a frame is no event. -/
inductive Fault where
  | tooManyTokens (capacity : Nat)
  /-- The byte at the offset fits no rule of JSON. -/
  | malformed (offset : Nat)
  | truncated
  | notAnObject
  | notAMessage
  | noData
  /-- A text field is missing, or is not a string. -/
  | incomplete (field : Field)
  deriving DecidableEq, Repr

/-- The fault as the error of a call. -/
def Fault.toError : Fault → Error
  | tooManyTokens capacity => .tooManyTokens capacity
  | malformed offset => .unrecognizedFrame ("invalid json at byte " ++ toString offset)
  | truncated => .unrecognizedFrame "truncated json"
  | notAnObject => .unrecognizedFrame "top-level value is not an object"
  | notAMessage => .unrecognizedFrame "not an event/message frame"
  | noData => .unrecognizedFrame "missing data object"
  | incomplete field => .incompleteEvent field

/-- The fault of a frame that has no tokens. -/
def Fault.ofLex (capacity : Nat) : LexFault → Fault
  | .tooMany => .tooManyTokens capacity
  | .invalid offset => .malformed offset
  | .truncated => .truncated

/-- The bytes of a member's value, if the value is of the given kind. -/
def member? (c : Cursor) (object : Nat) (key : String) (kind : Kind) : Option (List UInt8) := do
  let i ← c.find? object key
  if c.kind? i = some kind then c.raw? i else none

/-- The member's value is a string that is written exactly so. -/
def holdsText (c : Cursor) (object : Nat) (key value : String) : Bool :=
  (c.find? object key).any (c.isString · value.toUTF8.toList)

/-- The text of a field of the event. -/
def textField (c : Cursor) (data : Nat) (field : Field) : Except Fault String :=
  match member? c data field.name .string with
  | some body => .ok (unescape body)
  | none => .error (.incomplete field)

/-- The event that the tokens of a frame describe. -/
def read (c : Cursor) : Except Fault Event := do
  if c.kind? 0 ≠ some .object then
    throw .notAnObject
  if !(holdsText c 0 "type" "event" && holdsText c 0 "event" "message") then
    throw .notAMessage
  match (c.find? 0 "data").filter (c.kind? · == some .object) with
  | none => throw .noData
  | some data =>
    let timestamp := ((member? c data "ts" .primitive).map Timestamp.leading).getD 0
    let room ← textField c data .room
    let user ← textField c data .user
    let text ← textField c data .text
    return ⟨room, user, text, timestamp⟩

/-- The event that a frame of at most `capacity` tokens carries. -/
def decodeWithin (capacity : Nat) (frame : List UInt8) : Except Fault Event :=
  match tokenize capacity frame with
  | .error fault => .error (.ofLex capacity fault)
  | .ok tokens => read ⟨frame.toArray, tokens⟩

/-- The event that a frame carries. -/
def decode (frame : List UInt8) : Except Fault Event := decodeWithin defaultCapacity frame

end ChatLink.Frame
