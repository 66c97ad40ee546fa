import ChatLink.Envelope
import ChatLink.Error

/-!
# Writing envelopes into memory

An envelope is written piece by piece into a buffer. Memory is set aside before the first piece, by
an estimate of what the texts in it will take, and only there can a call be refused for the lack of
it. A piece that does not fit gets memory as well, but then a refusal ends the whole program. So a
buffer keeps the sizes that were asked for.

What an allocator grants is a parameter : of a size it says whether there is memory for it.
-/

namespace ChatLink

open ChatLink.Json ChatLink.Text

/-- A text that is being written, and the memory for it. -/
structure Buffer where
  text : String
  /-- How many bytes are set aside. -/
  room : Nat
  /-- The sizes that memory was asked for, the latest first. -/
  asked : List Nat
  deriving DecidableEq, Repr

namespace Buffer

/-- Nothing is written, and nothing is set aside. -/
def empty : Buffer := ⟨"", 0, []⟩

/-- Sets memory for more bytes aside, if there is too little. -/
def reserve (grants : Nat → Bool) (b : Buffer) (more : Nat) : Except Error Buffer :=
  let size := b.text.utf8ByteSize + more
  if size ≤ b.room then .ok b
  else if grants size then .ok { b with room := size, asked := size :: b.asked }
  else .error .allocationFailure

/-- Appends a piece. The memory grows if it does not fit. -/
def push (b : Buffer) (piece : String) : Buffer :=
  let size := b.text.utf8ByteSize + piece.utf8ByteSize
  if size ≤ b.room then { b with text := b.text ++ piece }
  else ⟨b.text ++ piece, size, size :: b.asked⟩

/-- Appends the written form of a text, with memory for all of it from the beginning. -/
def pushEscaped (grants : Nat → Bool) (b : Buffer) (text : String) : Except Error Buffer := do
  let b ← b.reserve grants (escapedLength text)
  return text.foldl (fun b c => b.push (String.ofList (escapeCharWith upperHexDigit c))) b

end Buffer

namespace Envelope

/-- An envelope that is being written. -/
structure Writer where
  kind : Kind
  buffer : Buffer
  /-- How many fields there are. -/
  fields : Nat
  deriving DecidableEq, Repr

namespace Writer

/-- How many bytes are set aside for what stands around the fields. -/
def margin : Nat := 48

/-- Appends a piece of the envelope. -/
def push (w : Writer) (piece : String) : Writer := { w with buffer := w.buffer.push piece }

/-- Begins an envelope whose fields take about as many bytes as `hint` says. -/
def start (grants : Nat → Bool) (kind : Kind) (hint : Nat) : Except Error Writer := do
  let w : Writer := ⟨kind, ← Buffer.empty.reserve grants (hint + margin), 0⟩
  return ((w.push "\x7b\"type\":\"").push kind.name).push "\",\"data\":\x7b"

/-- Appends the key of a further field. -/
def key (w : Writer) (key : String) : Writer :=
  let w := if 0 < w.fields then w.push "," else w
  { ((w.push "\"").push key).push "\":" with fields := w.fields + 1 }

/-- Appends a field that is a number. -/
def number (w : Writer) (key : String) (n : Nat) : Writer := (w.key key).push (toString n)

/-- Appends a field that is a text. -/
def string (grants : Nat → Bool) (w : Writer) (key text : String) : Except Error Writer := do
  let w := (w.key key).push "\""
  let b ← w.buffer.pushEscaped grants text
  return { w with buffer := b.push "\"" }

/-- Closes the data and the envelope. -/
def finish (w : Writer) : Writer := w.push "\x7d\x7d"

/-- The envelope that is written. -/
def envelope (w : Writer) : Envelope := ⟨w.kind, w.buffer.text⟩

/-- Writes a greeting. -/
def hello (grants : Nat → Bool) (token : Option String) : Except Error Writer := do
  let text := token.getD ""
  let w ← start grants .hello (escapedLength text + 16)
  let w ← (w.number "protocol" protocolVersion).string grants "token" text
  return w.finish

/-- Writes an envelope of a kind that has only a room. -/
def ofRoom (grants : Nat → Bool) (kind : Kind) (room : String) : Except Error Writer := do
  let w ← start grants kind (escapedLength room)
  let w ← w.string grants "room" room
  return w.finish

/-- Writes the wish to follow a room. -/
def join (grants : Nat → Bool) (room : String) : Except Error Writer := ofRoom grants .join room

/-- Writes the wish to follow a room no longer. -/
def leave (grants : Nat → Bool) (room : String) : Except Error Writer := ofRoom grants .leave room

/-- Writes a message to a room. -/
def message (grants : Nat → Bool) (room text : String) : Except Error Writer := do
  let w ← start grants .msg (escapedLength room + escapedLength text)
  let w ← w.string grants "room" room
  let w ← w.string grants "text" text
  return w.finish

end Writer

end Envelope

end ChatLink
