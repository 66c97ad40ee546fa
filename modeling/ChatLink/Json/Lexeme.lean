import ChatLink.Json.Lexer

/-!
# Lexemes of strict JSON

The words of a JSON text by the letter of the standard : brackets, separators, strings without
raw control characters and with well-formed escapes, and numbers, `true`, `false` and `null` as
the grammar has them. A string is kept as it is written.
-/

namespace ChatLink.Json

open ChatLink.Text

/-- A word of a text. -/
inductive Lexeme where
  | opening (kind : Kind)
  | closing (kind : Kind)
  | colon
  | comma
  | string (body : List UInt8)
  | primitive (literal : List UInt8)
  deriving DecidableEq, Repr

namespace Lexeme

/-- The rest after a run of digits, if there is at least one. -/
def skipDigits? : List UInt8 → Option (List UInt8)
  | b :: rest => if isDigit b then some (rest.dropWhile isDigit) else none
  | [] => none

/-- The rest after an integer, which has no zero in front unless it is zero. -/
def skipInteger? : List UInt8 → Option (List UInt8)
  | 0x30 :: rest => some rest
  | rest => skipDigits? rest

/-- The rest after a fraction, if there is one. -/
def skipFraction? : List UInt8 → Option (List UInt8)
  | 0x2e :: rest => skipDigits? rest
  | rest => some rest

/-- The rest after an exponent, if there is one. -/
def skipExponent? : List UInt8 → Option (List UInt8)
  | b :: rest =>
    if b = 0x65 ∨ b = 0x45 then
      match rest with
      | sign :: digits =>
        if sign = 0x2b ∨ sign = 0x2d then skipDigits? digits else skipDigits? rest
      | [] => none
    else some (b :: rest)
  | [] => some []

/-- A number as the grammar has it. -/
def isNumber (literal : List UInt8) : Bool :=
  let unsigned := if literal.head? = some 0x2d then literal.tail else literal
  ((skipInteger? unsigned).bind fun rest => (skipFraction? rest).bind skipExponent?) == some []

/-- A number or one of the three names. -/
def isLiteral (literal : List UInt8) : Bool :=
  literal == "true".toUTF8.toList || literal == "false".toUTF8.toList
    || literal == "null".toUTF8.toList || isNumber literal

/-- A string's body up to its quote, and what follows the quote; `body` is what was read of it,
last byte first. -/
def readBody (body : List UInt8) : List UInt8 → Option (List UInt8 × List UInt8)
  | [] => none
  | b :: rest =>
    if b = 0x22 then some (body.reverse, rest)
    else if b < 0x20 then none
    else if b = 0x5c then
      match rest with
      | 0x75 :: h₁ :: h₂ :: h₃ :: h₄ :: rest =>
        if isHex h₁ && isHex h₂ && isHex h₃ && isHex h₄ then
          readBody (h₄ :: h₃ :: h₂ :: h₁ :: 0x75 :: b :: body) rest
        else none
      | e :: rest => if isShortEscape e then readBody (e :: b :: body) rest else none
      | [] => none
    else readBody (b :: body) rest

theorem length_readBody {body text read rest : List UInt8}
    (h : readBody body text = some (read, rest)) : rest.length < text.length := by
  fun_induction readBody body text <;> simp_all <;> omega

/-- The first word of a text that begins with `b`, unless `b` is a blank, and what follows. -/
def next (b : UInt8) (rest : List UInt8) : Option (Option Lexeme × List UInt8) :=
  match Sign.of b with
  | .opening kind => some (some (.opening kind), rest)
  | .closing kind => some (some (.closing kind), rest)
  | .colon => some (some .colon, rest)
  | .comma => some (some .comma, rest)
  | .blank => some (none, rest)
  | .quote => (readBody [] rest).map fun (body, rest) => (some (.string body), rest)
  | .primitive =>
    if isLiteral (b :: rest.takeWhile (!endsPrimitive ·)) then
      some (some (.primitive (b :: rest.takeWhile (!endsPrimitive ·))),
        rest.dropWhile (!endsPrimitive ·))
    else none
  | .other => none

theorem length_next {b : UInt8} {rest after : List UInt8} {word : Option Lexeme}
    (h : next b rest = some (word, after)) : after.length ≤ rest.length := by
  unfold next at h
  split at h
  case h_6 =>
    obtain ⟨⟨body, rest'⟩, hr, he⟩ := Option.map_eq_some_iff.1 h
    simp only [Prod.mk.injEq] at he
    exact he.2 ▸ Nat.le_of_lt (length_readBody hr)
  case h_7 =>
    split at h
    · simp only [Option.some.injEq, Prod.mk.injEq] at h
      exact h.2 ▸ (List.dropWhile_sublist _).length_le
    · simp at h
  all_goals simp_all

/-- `scan` after the words `done`. -/
def scanFrom (done : Array Lexeme) : List UInt8 → Option (Array Lexeme)
  | [] => some done
  | b :: rest =>
    match h : next b rest with
    | none => none
    | some (word, after) =>
      have := Nat.lt_succ_of_le (length_next h)
      scanFrom (done.appendList word.toList) after
termination_by text => text.length

/-- The words of a text, if it has nothing else in it. -/
def scan (text : List UInt8) : Option (List Lexeme) := (scanFrom #[] text).map Array.toList

end Lexeme

end ChatLink.Json
