/-!
# Digits among bytes

The value of a decimal or hexadecimal digit, and the digit of a value. Only ASCII digits count :
no byte of a longer UTF-8 character is one.
-/

namespace ChatLink.Text

/-- The bytes `0` to `9`. -/
def isDigit (b : UInt8) : Bool := 0x30 ≤ b && b ≤ 0x39

/-- The value of a hexadecimal digit in either case. -/
def hexValue? (b : UInt8) : Option Nat :=
  if isDigit b then some (b.toNat - 0x30)
  else if 0x41 ≤ b && b ≤ 0x46 then some (b.toNat - 0x37)
  else if 0x61 ≤ b && b ≤ 0x66 then some (b.toNat - 0x57)
  else none

/-- A byte that is a hexadecimal digit in either case. -/
def isHex (b : UInt8) : Bool := (hexValue? b).isSome

/-- The number that the digits of a base spell, most significant first; `none` if one of them is
no digit of the base or if there is none at all. -/
def numeral? (base : Nat) (digits : List UInt8) : Option Nat :=
  if digits.isEmpty then none
  else digits.foldlM
    (fun n b => (hexValue? b).bind fun d => if d < base then some (n * base + d) else none) 0

/-- The hexadecimal digit of a value below sixteen, in upper case. -/
def upperHexDigit (n : Nat) : Char :=
  if n < 10 then Char.ofNat (0x30 + n) else Char.ofNat (0x37 + n)

/-- The hexadecimal digit of a value below sixteen, in lower case. -/
def lowerHexDigit (n : Nat) : Char :=
  if n < 10 then Char.ofNat (0x30 + n) else Char.ofNat (0x57 + n)

end ChatLink.Text
