import ChatLink.Text.Digit
import ChatLink.Text.Utf8

/-!
# Escaped text in JSON strings

`escape` writes text so that it can stand between quotes : the quote, the backslash and the
control characters below U+0020 become escapes, and all else stays as it is. Control characters
without a short form are written `\u00XX`, on the wire with upper-case digits.

`unescape` reads the bytes between two quotes. It resolves escapes first and reads the bytes as
UTF-8 afterwards, so damage on the two sides of an escape is seen apart. It is total : where an
escape is not well formed, something is still written for it, and a surrogate that has no partner
becomes U+FFFD.
-/

namespace ChatLink.Json

open ChatLink.Text

/-! ## Writing -/

/-- The written form of one character, with the given digits for control characters. -/
def escapeCharWith (hexDigit : Nat → Char) (c : Char) : List Char :=
  match c with
  | '"' => ['\\', '"']
  | '\\' => ['\\', '\\']
  | '\x08' => ['\\', 'b']
  | '\x0c' => ['\\', 'f']
  | '\n' => ['\\', 'n']
  | '\r' => ['\\', 'r']
  | '\t' => ['\\', 't']
  | c =>
    if c.toNat < 0x20 then
      ['\\', 'u', '0', '0', hexDigit (c.toNat / 16), hexDigit (c.toNat % 16)]
    else [c]

/-- Appends the written form of a text, with the given digits for control characters. -/
def escapeOntoWith (hexDigit : Nat → Char) (done text : String) : String :=
  text.foldl (fun done c => (escapeCharWith hexDigit c).foldl String.push done) done

/-- Appends the written form of a text. -/
def escapeOnto (done text : String) : String := escapeOntoWith upperHexDigit done text

/-- The written form of a text. -/
def escape (text : String) : String := escapeOnto "" text

/-- How many bytes the written form of one byte takes. The bytes of a character beyond ASCII are
all 0x80 or more and stay as they are. -/
def escapedWidth (b : UInt8) : Nat :=
  if b = 0x22 ∨ b = 0x5c ∨ b = 0x08 ∨ b = 0x0c ∨ b = 0x0a ∨ b = 0x0d ∨ b = 0x09 then 2
  else if b < 0x20 then 6
  else 1

/-- How many bytes the written form of a text takes, counted on the text's own bytes. -/
def escapedLength (text : String) : Nat :=
  text.toUTF8.foldl (fun n b => n + escapedWidth b) 0

/-! ## Reading -/

/-- The value of the four characters after `\u`. A plus sign may stand in place of the first. -/
def hex4? : List UInt8 → Option Nat
  | a :: b :: c :: d :: _ => numeral? 16 (if a = 0x2b then [b, c, d] else [a, b, c, d])
  | _ => none

/-- A value that only the first half of a surrogate pair has. -/
def isHighSurrogate (n : Nat) : Bool := 0xd800 ≤ n && n ≤ 0xdbff

/-- A value that only the second half of a surrogate pair has. -/
def isLowSurrogate (n : Nat) : Bool := 0xdc00 ≤ n && n ≤ 0xdfff

/-- The character of a surrogate pair. -/
def pairedChar (high low : Nat) : Char :=
  Char.ofNat (0x10000 + (high - 0xd800) * 0x400 + (low - 0xdc00))

/-- The value of an escape that follows at once, if it is the second half of a pair. -/
def lowSurrogate? : List UInt8 → Option Nat
  | 0x5c :: 0x75 :: rest => (hex4? rest).filter isLowSurrogate
  | _ => none

/-- The character of an escape, from what stands after `\u`, and what stands after the escape.
Without a number only the two bytes `\u` are used up. -/
def unicodeEscape (rest : List UInt8) : Char × List UInt8 :=
  match hex4? rest with
  | none => (Utf8.replacement, rest)
  | some n =>
    if isHighSurrogate n then
      match lowSurrogate? (rest.drop 4) with
      | some low => (pairedChar n low, rest.drop 10)
      | none => (Utf8.replacement, rest.drop 4)
    else if isLowSurrogate n then (Utf8.replacement, rest.drop 4)
    else (Char.ofNat n, rest.drop 4)

/-- The byte of a two-byte escape, from the byte after the backslash. -/
def shortEscape : UInt8 → UInt8
  | 0x62 => 0x08 -- b
  | 0x66 => 0x0c -- f
  | 0x6e => 0x0a -- n
  | 0x72 => 0x0d -- r
  | 0x74 => 0x09 -- t
  | b => b

/-- The bytes that a piece of a string's body stands for, and the body after that piece. A piece
is an escape or one byte that is not a backslash. A backslash at the end stands for itself. -/
def piece (b : UInt8) (rest : List UInt8) : List UInt8 × List UInt8 :=
  if b = 0x5c then
    match rest with
    | [] => ([b], [])
    | e :: rest =>
      if e = 0x75 then
        let (c, rest) := unicodeEscape rest
        (String.utf8EncodeChar c, rest)
      else ([shortEscape e], rest)
  else ([b], rest)

theorem length_unicodeEscape (rest : List UInt8) :
    (unicodeEscape rest).2.length ≤ rest.length := by
  unfold unicodeEscape
  split
  · exact Nat.le_refl _
  · split
    · split <;> simp
    · split <;> simp

theorem length_piece (b : UInt8) (rest : List UInt8) :
    (piece b rest).2.length ≤ rest.length := by
  unfold piece
  split
  · split
    · exact Nat.le_refl _
    · split
      · exact Nat.le_succ_of_le (length_unicodeEscape _)
      · exact Nat.le_succ _
  · exact Nat.le_refl _

/-- `resolve` after the bytes `done`. -/
def resolveFrom (done : Array UInt8) : List UInt8 → Array UInt8
  | [] => done
  | b :: rest =>
    have := Nat.lt_succ_of_le (length_piece b rest)
    resolveFrom (done.appendList (piece b rest).1) (piece b rest).2
termination_by body => body.length

/-- The bytes that a string's body stands for. -/
def resolve (body : List UInt8) : List UInt8 := (resolveFrom #[] body).toList

/-- The text that a string's body stands for. -/
def unescape (body : List UInt8) : String := Utf8.lossy (resolve body)

end ChatLink.Json
