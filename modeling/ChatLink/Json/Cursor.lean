import ChatLink.Json.Token

/-!
# Finding members in a token array

Tokens hold no links to what is below them, so the members of an object are found by spans : a
token belongs to a value exactly if it starts before the value stops. `Cursor.skip` goes past a
value and everything below it, and `Cursor.find?` looks a key up among the direct members of one
object.
-/

namespace ChatLink.Json

/-- Tokens together with the bytes that their spans are read in. -/
structure Cursor where
  source : Array UInt8
  tokens : Array Token
  deriving DecidableEq, Repr

namespace Cursor

/-- The kind of a token. -/
def kind? (c : Cursor) (i : Nat) : Option Kind := c.tokens[i]?.map (·.kind)

/-- The bytes under a token, if its span lies in the source. -/
def raw? (c : Cursor) (i : Nat) : Option (List UInt8) :=
  c.tokens[i]?.bind fun t =>
    if t.start ≤ t.stop ∧ t.stop ≤ c.source.size then
      some (c.source.extract t.start t.stop).toList
    else
      none

/-- The token is a string that is written exactly so. -/
def isString (c : Cursor) (i : Nat) (written : List UInt8) : Bool :=
  c.kind? i == some .string && c.raw? i == some written

/-- Walks on from `i` while tokens start before the boundary, which moves to the furthest stop
seen. -/
def skipFrom (c : Cursor) (boundary i : Nat) : Nat :=
  if h : i < c.tokens.size then
    if c.tokens[i].start < boundary then
      c.skipFrom (max boundary c.tokens[i].stop) (i + 1)
    else i
  else i
termination_by c.tokens.size - i

/-- The index after the value at `i` and all that is below it; the number of tokens if there is
no token at `i`. -/
def skip (c : Cursor) (i : Nat) : Nat :=
  match c.tokens[i]? with
  | some t => c.skipFrom t.stop (i + 1)
  | none => c.tokens.size

theorem le_skipFrom (c : Cursor) (boundary i : Nat) : i ≤ c.skipFrom boundary i := by
  fun_induction c.skipFrom boundary i with
  | case1 boundary i h hs ih => exact Nat.le_of_succ_le ih
  | case2 => exact Nat.le_refl _
  | case3 => exact Nat.le_refl _

/-- A walk from one member's value gets past the member's key. -/
theorem lt_skip_succ (c : Cursor) {i : Nat} (h : i < c.tokens.size) : i < c.skip (i + 1) := by
  unfold skip
  split
  · exact Nat.lt_of_lt_of_le (Nat.lt_of_succ_lt (Nat.lt_succ_self _)) (c.le_skipFrom _ _)
  · exact h

/-- Looks a key up among the members that begin at `i`, in an object that stops at `limit`. -/
def findFrom (c : Cursor) (limit : Nat) (key : List UInt8) (i : Nat) : Option Nat :=
  if h : i < c.tokens.size then
    if c.tokens[i].start < limit then
      if c.isString i key && c.tokens[i + 1]?.any (·.start < limit) then some (i + 1)
      else
        have := c.lt_skip_succ h
        c.findFrom limit key (c.skip (i + 1))
    else none
  else none
termination_by c.tokens.size - i

/-- The value of the first member of an object whose key is written exactly so. -/
def find? (c : Cursor) (object : Nat) (key : String) : Option Nat :=
  match c.tokens[object]? with
  | some t =>
    if t.kind = .object then c.findFrom t.stop key.toUTF8.toList (object + 1) else none
  | none => none

end Cursor

end ChatLink.Json
