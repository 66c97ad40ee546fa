import ChatLink.Event
import ChatLink.Json.Escape
import ChatLink.Json.Value

/-!
# Events as records

An event is stored as a JSON object with the members `room`, `user`, `text` and `ts`. `Event.record`
writes it without blanks. `Event.ofRecord?` reads strict JSON : the members may come in any order
and among others, none of the four twice, and `ts` may be missing; an array that holds the four
values in order counts as well.
-/

namespace ChatLink

open ChatLink.Json ChatLink.Text

/-! ## Writing -/

/-- A text in quotes, as records have it. -/
def Json.quote (text : String) : String :=
  escapeOntoWith lowerHexDigit "\"" text ++ "\""

/-- The record of an event. -/
def Event.record (e : Event) : String :=
  "\x7b\"room\":" ++ quote e.room ++ ",\"user\":" ++ quote e.user ++ ",\"text\":" ++ quote e.text
    ++ ",\"ts\":" ++ toString e.timestamp.toInt ++ "\x7d"

/-! ## Reading -/

namespace Event

/-- No half of a surrogate pair stands alone among the escapes of a string's body. -/
def isPaired : List UInt8 → Bool
  | [] => true
  | b :: rest =>
    if b = 0x5c then
      match rest with
      | 0x75 :: rest =>
        match hex4? rest with
        | none => isPaired rest
        | some n =>
          if isHighSurrogate n then
            (lowSurrogate? (rest.drop 4)).isSome && isPaired (rest.drop 10)
          else !isLowSurrogate n && isPaired (rest.drop 4)
      | _ :: rest => isPaired rest
      | [] => true
    else isPaired rest
termination_by body => body.length
decreasing_by all_goals simp_all <;> omega

/-- The text of a string's body, unless an escape in it is half a character. -/
def strictText? (body : List UInt8) : Option String :=
  if isPaired body then some (unescape body) else none

/-- A value that is a text. -/
def text? : Value → Option String
  | .string body => strictText? body
  | _ => none

/-- An integer of the 64-bit range, written without fraction and exponent. A zero with a sign is a
fraction in disguise and does not count. -/
def integer? (literal : List UInt8) : Option Int64 := do
  let negative := literal.head? = some 0x2d
  let digits := if negative then literal.tail else literal
  if !digits.all isDigit then none
  let n ← numeral? 10 digits
  if negative then
    if 0 < n ∧ n ≤ 0x8000000000000000 then some (Int64.ofInt (-n)) else none
  else
    if n < 0x8000000000000000 then some (Int64.ofInt n) else none

/-- A value that is a timestamp. -/
def timestamp? : Value → Option Int64
  | .primitive literal => integer? literal
  | _ => none

/-- The members of an object with their keys as texts, if all keys are texts. -/
def keyed? (members : List (List UInt8 × Value)) : Option (List (String × Value)) :=
  members.mapM fun (key, v) => (strictText? key).map (·, v)

/-- The values of the members with a key. -/
def valuesOf (members : List (String × Value)) (key : String) : List Value :=
  (members.filter (·.1 == key)).map (·.2)

/-- The only value with a key. -/
def only? (members : List (String × Value)) (key : String) : Option Value :=
  match valuesOf members key with
  | [v] => some v
  | _ => none

/-- The timestamp among the members; 0 if there is none. -/
def timestampOf? (members : List (String × Value)) : Option Int64 :=
  match valuesOf members "ts" with
  | [] => some 0
  | [v] => timestamp? v
  | _ => none

/-- The event that a value describes. -/
def ofValue? : Value → Option Event
  | .object members => do
    let members ← keyed? members
    let room ← (← only? members "room") |> text?
    let user ← (← only? members "user") |> text?
    let text ← (← only? members "text") |> text?
    return ⟨room, user, text, ← timestampOf? members⟩
  | .array [room, user, text] => do
    return ⟨← text? room, ← text? user, ← text? text, 0⟩
  | .array [room, user, text, ts] => do
    return ⟨← text? room, ← text? user, ← text? text, ← timestamp? ts⟩
  | _ => none

/-- The event that a record describes. -/
def ofRecord? (record : String) : Option Event :=
  (Value.read? record.toUTF8.toList).bind ofValue?

end Event

end ChatLink
