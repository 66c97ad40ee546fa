import ChatLink.Json.Escape

/-!
# Envelopes

What a client sends. An envelope is the JSON text of an object with the members `type`, the name
of its kind, and `data`, an object with the kind's own fields. Texts of the application stand in
it escaped, so none of them can end its quotes.
-/

namespace ChatLink

open ChatLink.Json

/-- The version of the protocol that a client announces. -/
def protocolVersion : Nat := 1

/-- The kinds of envelopes. -/
inductive Envelope.Kind where
  | hello
  | join
  | leave
  | msg
  deriving DecidableEq, Repr

/-- The value of the member `type`. -/
def Envelope.Kind.name : Envelope.Kind → String
  | hello => "hello"
  | join => "join"
  | leave => "leave"
  | msg => "msg"

/-- An envelope that is ready to be sent. -/
structure Envelope where
  kind : Envelope.Kind
  payload : String
  deriving DecidableEq, Repr

namespace Envelope

/-- The value of a field of `data`. -/
inductive Value where
  | number (n : Nat)
  | text (s : String)
  deriving DecidableEq, Repr

/-- The written form of a value. -/
def Value.written : Value → String
  | number n => toString n
  | text s => escapeOnto "\"" s ++ "\""

/-- The written form of a field. -/
def fieldWritten (field : String × Value) : String :=
  "\"" ++ field.1 ++ "\":" ++ field.2.written

/-- The envelope of a kind with its fields in order. -/
def ofFields (kind : Kind) (fields : List (String × Value)) : Envelope where
  kind := kind
  payload :=
    "\x7b\"type\":\"" ++ kind.name ++ "\",\"data\":\x7b"
      ++ ",".intercalate (fields.map fieldWritten) ++ "\x7d\x7d"

/-- The greeting that opens a session. A missing token is sent as the empty text. -/
def hello (token : Option String) : Envelope :=
  ofFields .hello [("protocol", .number protocolVersion), ("token", .text (token.getD ""))]

/-- The wish to follow a room. -/
def join (room : String) : Envelope := ofFields .join [("room", .text room)]

/-- The wish to follow a room no longer. -/
def leave (room : String) : Envelope := ofFields .leave [("room", .text room)]

/-- A message to a room. -/
def message (room text : String) : Envelope :=
  ofFields .msg [("room", .text room), ("text", .text text)]

/-- How many bytes are sent for an envelope. -/
def length (e : Envelope) : Nat := e.payload.utf8ByteSize

end Envelope

end ChatLink
