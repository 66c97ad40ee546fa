import ChatLink.Text.Digit
import ChatLink.Yaml.Scalar

/-!
# Quoted scalars

Between single quotes only the quote itself is special, and is written twice. Between double quotes
a backslash begins an escape; before a line break it takes the break out of the text.
-/

namespace ChatLink.Yaml

/-- The character that a backslash and one more character stand for. -/
def escape? : Char → Option Char
  | '0' => some '\x00'
  | 'a' => some '\x07'
  | 'b' => some '\x08'
  | 't' | '\t' => some '\t'
  | 'n' => some '\n'
  | 'v' => some '\x0b'
  | 'f' => some '\x0c'
  | 'r' => some '\r'
  | 'e' => some '\x1b'
  | ' ' => some ' '
  | '"' => some '"'
  | '/' => some '/'
  | '\\' => some '\\'
  | 'N' => some '\x85'
  | '_' => some '\xa0'
  | 'L' => some '\u2028'
  | 'P' => some '\u2029'
  | _ => none

/-- How many digits follow in an escape that gives a number. -/
def escapeWidth? : Char → Option Nat
  | 'x' => some 2
  | 'u' => some 4
  | 'U' => some 8
  | _ => none

/-- The character whose number so many digits at the front spell. -/
def numbered? (width : Nat) (spots : List Spot) : Option Char :=
  if width ≤ spots.length then
    match Text.numeral? 16 (textOf (spots.take width)).toUTF8.toList with
    | some n => if n.isValidChar then some (Char.ofNat n) else none
    | none => none
  else none

/-- A gap inside quotes that is not over yet. -/
structure OpenGap where
  chars : List Char
  /-- It began with a line break behind a backslash. -/
  escaped : Bool

/-- No gap. -/
def OpenGap.none : OpenGap := ⟨[], false⟩

/-- A gap after a line break behind a backslash. -/
def OpenGap.afterBackslash : OpenGap := ⟨[], true⟩

/-- The gap with one more character. -/
def OpenGap.push (gap : OpenGap) (c : Char) : OpenGap := { gap with chars := gap.chars ++ [c] }

/-- What the gap stands for. After a backslash only further line breaks count. -/
def OpenGap.text (gap : OpenGap) : List Char :=
  if gap.escaped then gap.chars.filter isBreak else gapText gap.chars

/-- `quoted?` inside the quotes, after `text` and a gap. -/
def quotedFrom? (double : Bool) (text : Array Char) (gap : OpenGap) :
    List Spot → Option (List Char × List Spot)
  | [] => none
  | s :: rest =>
    if atDocument (s :: rest) then none
    else if isGap s.char then quotedFrom? double text (gap.push s.char) rest
    else if s.char == (if double then '"' else '\'') then
      match double, rest with
      | false, ⟨'\'', _, _⟩ :: rest => quotedFrom? double ((text ++ gap.text).push '\'') .none rest
      | _, rest => some ((text ++ gap.text).toList, rest)
    else if double && s.char == '\\' then
      match rest with
      | [] => none
      | e :: rest =>
        if isBreak e.char then quotedFrom? double (text ++ gap.text) .afterBackslash rest
        else
          match escape? e.char, escapeWidth? e.char with
          | some c, _ => quotedFrom? double ((text ++ gap.text).push c) .none rest
          | none, some width =>
            match numbered? width rest with
            | some c => quotedFrom? double ((text ++ gap.text).push c) .none (rest.drop width)
            | none => none
          | none, none => none
    else quotedFrom? double ((text ++ gap.text).push s.char) .none rest
termination_by spots => spots.length
decreasing_by all_goals simp only [List.length_cons, List.length_drop]; omega

/-- The text of a quoted scalar whose opening quote is already taken off, and what follows it. -/
def quoted? (double : Bool) (spots : List Spot) : Option (List Char × List Spot) :=
  quotedFrom? double #[] .none spots

end ChatLink.Yaml
