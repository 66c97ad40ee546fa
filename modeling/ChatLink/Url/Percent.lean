import ChatLink.Text.Digit

/-!
# Percent-encoding

The parts of an address are written in ASCII. A character that a part cannot hold is written as
its UTF-8 bytes, each a percent sign and two upper-case digits. Which ASCII characters that are
depends on the part; characters beyond ASCII are always written so. A percent sign stays as it is.
-/

namespace ChatLink.Url.Percent

open ChatLink.Text

/-- The control characters of ASCII. -/
def isControl (c : Char) : Bool := c.toNat < 0x20 || c.toNat == 0x7f

/-- What a fragment cannot hold. -/
def inFragment (c : Char) : Bool := isControl c || [' ', '"', '<', '>', '`'].contains c

/-- What a query cannot hold. -/
def inQuery (c : Char) : Bool := isControl c || [' ', '"', '#', '<', '>', '\''].contains c

/-- What a path cannot hold. -/
def inPath (c : Char) : Bool := inFragment c || ['#', '?', '{', '}'].contains c

/-- What a user's name and password cannot hold. -/
def inUserinfo (c : Char) : Bool :=
  inPath c || ['/', ':', ';', '=', '@', '[', '\\', ']', '^', '|'].contains c

/-- A byte as a percent sign and two digits. -/
def encodeByte (b : UInt8) : List Char :=
  ['%', upperHexDigit (b.toNat / 16), upperHexDigit (b.toNat % 16)]

/-- A character in a part that cannot hold the characters of a set. -/
def encodeChar (excluded : Char → Bool) (c : Char) : List Char :=
  if 0x80 ≤ c.toNat || excluded c then (String.utf8EncodeChar c).flatMap encodeByte else [c]

/-- A text in a part that cannot hold the characters of a set. -/
def encode (excluded : Char → Bool) (cs : List Char) : String :=
  String.ofList (cs.flatMap (encodeChar excluded))

/-- `decode` after the bytes `done`, last byte first. -/
def decodeOnto (done : List UInt8) : List UInt8 → List UInt8
  | [] => done.reverse
  | 0x25 :: a :: b :: rest =>
    match hexValue? a, hexValue? b with
    | some x, some y => decodeOnto (UInt8.ofNat (x * 16 + y) :: done) rest
    | _, _ => decodeOnto (0x25 :: done) (a :: b :: rest)
  | b :: rest => decodeOnto (b :: done) rest

/-- The bytes that a part stands for. A percent sign without two digits after it stands for
itself. -/
def decode (part : List UInt8) : List UInt8 := decodeOnto [] part

end ChatLink.Url.Percent
