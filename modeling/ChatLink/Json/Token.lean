/-!
# Tokens of a JSON text

A text is described by a flat array of tokens in document order. A token holds its kind, the
span of bytes that it covers, how many tokens hang directly below it, and the index of the token
that it hangs from : the container of an element or of a key, the key of a member's value.

An object or an array spans its brackets, a string the bytes between its quotes with their
escapes left in place, and a primitive (a number, `true`, `false` or `null`) its literal.
-/

namespace ChatLink.Json

/-- What a token stands for. -/
inductive Kind where
  | object
  | array
  | string
  | primitive
  deriving DecidableEq, Repr, Inhabited

namespace Kind

/-- Objects and arrays hold other tokens between their brackets. -/
def isContainer : Kind → Bool
  | .object | .array => true
  | .string | .primitive => false

/-- The word for a kind in reports. -/
def name : Kind → String
  | .object => "object"
  | .array => "array"
  | .string => "string"
  | .primitive => "primitive"

end Kind

/-- One token : it covers the bytes from `start` up to `stop`. -/
structure Token where
  kind : Kind
  start : Nat
  stop : Nat
  /-- How many tokens name this one as their parent. -/
  size : Nat
  parent : Option Nat
  deriving DecidableEq, Repr, Inhabited

/-- The number of tokens that are enough for any frame a server sends. -/
def defaultCapacity : Nat := 128

end ChatLink.Json
