import ChatLink.Json.Token
import ChatLink.Text.Digit

/-!
# From bytes to tokens

`tokenize` reads a text one byte at a time. `Lexer.step` takes the state before a byte to the
state after it, so the run over `a ++ b` is the run over `a` followed by the run over `b`, and a
text is refused exactly at the first byte on which a step fails.

The state keeps the tokens found so far, the open containers and the *anchor* : the token that
the next one hangs from. An opening bracket makes the new container the anchor, a colon the
newest token (a key that waits for its value), a comma leaves a key or a primitive for its
parent, and a closing bracket goes back to the parent of the container that it closes.
-/

namespace ChatLink.Json

open ChatLink.Text

/-- Why a text has no token array. -/
inductive LexFault where
  /-- There are more tokens than the capacity. -/
  | tooMany
  /-- No text goes on from here : the byte at this offset fits no rule. -/
  | invalid (offset : Nat)
  /-- The text ends inside a value. -/
  | truncated
  deriving DecidableEq, Repr

/-- What a byte means where a token may begin. -/
inductive Sign where
  | opening (kind : Kind)
  | closing (kind : Kind)
  | quote
  | colon
  | comma
  | blank
  /-- The first byte of a number or of `true`, `false`, `null`. -/
  | primitive
  | other
  deriving DecidableEq, Repr

/-- The sign of a byte between two tokens. -/
def Sign.of : UInt8 → Sign
  | 0x7b => .opening .object -- an opening brace
  | 0x5b => .opening .array -- an opening bracket
  | 0x7d => .closing .object -- a closing brace
  | 0x5d => .closing .array -- a closing bracket
  | 0x22 => .quote
  | 0x3a => .colon
  | 0x2c => .comma
  | 0x09 | 0x0a | 0x0d | 0x20 => .blank
  | 0x2d => .primitive -- a minus sign
  | 0x74 | 0x66 | 0x6e => .primitive -- t, f, n
  | b => if isDigit b then .primitive else .other

/-- The bytes that end a primitive : the blanks, the comma, the colon and the closing brackets. -/
def endsPrimitive : UInt8 → Bool
  | 0x09 | 0x0a | 0x0d | 0x20 | 0x2c | 0x3a | 0x5d | 0x7d => true
  | _ => false

/-- Printable ASCII, the only bytes inside a primitive. -/
def isPrintable (b : UInt8) : Bool := 0x20 ≤ b && b ≤ 0x7e

/-- The bytes that make a two-byte escape with a backslash before them. -/
def isShortEscape : UInt8 → Bool
  | 0x22 | 0x2f | 0x5c => true -- the quote, the slash, the backslash
  | 0x62 | 0x66 | 0x6e | 0x72 | 0x74 => true -- b, f, n, r, t
  | _ => false

/-- What the next byte belongs to. A string or a primitive is known by the offset of its first
byte. -/
inductive Mode where
  | between
  | string (start : Nat)
  /-- The byte before was a backslash. -/
  | escape (start : Nat)
  /-- So many hexadecimal digits of an escape are still to come. -/
  | digits (start left : Nat)
  | primitive (start : Nat)
  deriving DecidableEq, Repr

/-- The state between two bytes. -/
structure Lexer where
  /-- How many bytes have been read. -/
  position : Nat
  tokens : Array Token
  /-- The token from which the next one hangs. -/
  anchor : Option Nat
  /-- The containers that are still open, innermost first. Until it is closed, a container's
  `stop` is its `start`. -/
  opened : List Nat
  mode : Mode
  deriving DecidableEq, Repr

namespace Lexer

/-- Nothing has been read. -/
def initial : Lexer := ⟨0, #[], none, [], .between⟩

/-- The token from which the next one hangs. -/
def holder (s : Lexer) : Option Token := s.anchor.bind (s.tokens[·]?)

/-- A container or a primitive may begin here : it cannot be the key of an object, and a key takes
one value. -/
def takesValue (s : Lexer) : Bool :=
  match s.holder with
  | some t => t.kind != .object && (t.kind != .string || t.size == 0)
  | none => true

/-- One byte further, to be read in the given mode. -/
def advance (s : Lexer) (mode : Mode) : Lexer :=
  { s with position := s.position + 1, mode := mode }

/-- Counts one more token below the one at `i`. -/
def countBelow (tokens : Array Token) : Option Nat → Array Token
  | none => tokens
  | some i => tokens.modify i fun t => { t with size := t.size + 1 }

/-- Hangs a new token from the anchor, if the capacity allows one more. -/
def add (capacity : Nat) (s : Lexer) (kind : Kind) (start stop : Nat) : Except LexFault Lexer :=
  if s.tokens.size < capacity then
    let anchor := s.anchor
    .ok { s with tokens := countBelow (s.tokens.push ⟨kind, start, stop, 0, anchor⟩) anchor }
  else
    .error .tooMany

/-- An opening bracket begins a container, and the next token hangs from it. -/
def openContainer (capacity : Nat) (s : Lexer) (kind : Kind) : Except LexFault Lexer :=
  if s.takesValue then do
    let index := s.tokens.size
    let s ← s.add capacity kind s.position s.position
    return { s with anchor := some index, opened := index :: s.opened }
  else
    .error (.invalid s.position)

/-- A closing bracket ends the innermost open container, which must be of its kind. -/
def closeContainer (s : Lexer) (kind : Kind) : Except LexFault Lexer :=
  match s.opened with
  | [] => .error (.invalid s.position)
  | i :: outer =>
    match s.tokens[i]? with
    | none => .error (.invalid s.position)
    | some t =>
      if t.kind = kind then
        let stop := s.position + 1
        .ok { s with
          tokens := s.tokens.modify i fun t => { t with stop := stop }
          anchor := t.parent
          opened := outer }
      else
        .error (.invalid s.position)

/-- After a colon the next token hangs from the newest one. -/
def awaitValue (s : Lexer) : Lexer :=
  { s with anchor := if s.tokens.isEmpty then none else some (s.tokens.size - 1) }

/-- After a comma the next token hangs from a container again. -/
def nextMember (s : Lexer) : Lexer :=
  match s.holder with
  | some t => if t.kind.isContainer then s else { s with anchor := t.parent }
  | none => s

/-- One byte where a token may begin. -/
def stepBetween (capacity : Nat) (s : Lexer) (b : UInt8) : Except LexFault Lexer :=
  match Sign.of b with
  | .opening kind => return (← s.openContainer capacity kind).advance .between
  | .closing kind => return (← s.closeContainer kind).advance .between
  | .quote => .ok (s.advance (.string (s.position + 1)))
  | .colon => .ok (s.awaitValue.advance .between)
  | .comma => .ok (s.nextMember.advance .between)
  | .blank => .ok (s.advance .between)
  | .primitive =>
    if s.takesValue then .ok (s.advance (.primitive s.position))
    else .error (.invalid s.position)
  | .other => .error (.invalid s.position)

/-- Ends a primitive before the byte at the present position. -/
def endPrimitive (capacity : Nat) (s : Lexer) (start : Nat) : Except LexFault Lexer := do
  let s ← s.add capacity .primitive start s.position
  return { s with mode := .between }

/-- One byte. -/
def step (capacity : Nat) (s : Lexer) (b : UInt8) : Except LexFault Lexer :=
  match s.mode with
  | .between => s.stepBetween capacity b
  | .string start =>
    if b = 0x22 then
      return (← s.add capacity .string start s.position).advance .between
    else if b = 0x5c then
      .ok (s.advance (.escape start))
    else
      .ok (s.advance (.string start))
  | .escape start =>
    if b = 0x75 then .ok (s.advance (.digits start 4)) -- the letter u
    else if isShortEscape b then .ok (s.advance (.string start))
    else .error (.invalid s.position)
  | .digits start left =>
    if isHex b then
      .ok (s.advance (if left ≤ 1 then .string start else .digits start (left - 1)))
    else
      .error (.invalid s.position)
  | .primitive start =>
    if endsPrimitive b then do
      let s ← s.endPrimitive capacity start
      s.stepBetween capacity b
    else if isPrintable b then
      .ok (s.advance (.primitive start))
    else
      .error (.invalid s.position)

/-- The run over some bytes. -/
def run (capacity : Nat) (s : Lexer) (bytes : List UInt8) : Except LexFault Lexer :=
  bytes.foldlM (step capacity) s

/-- All containers are closed. -/
def complete (s : Lexer) : Except LexFault (Array Token) :=
  if s.opened.isEmpty then .ok s.tokens else .error .truncated

/-- At the end of the text a primitive ends, and nothing else may be unfinished. -/
def finish (capacity : Nat) (s : Lexer) : Except LexFault (Array Token) :=
  match s.mode with
  | .between => s.complete
  | .primitive start => do (← s.endPrimitive capacity start).complete
  | .string _ | .escape _ | .digits _ _ => .error .truncated

end Lexer

/-- The tokens of a text, at most `capacity` of them. -/
def tokenize (capacity : Nat) (text : List UInt8) : Except LexFault (Array Token) := do
  (← Lexer.initial.run capacity text).finish capacity

end ChatLink.Json
