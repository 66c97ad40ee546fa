import ChatLink.Text.Digit

/-!
# Timestamps from literals

A literal counts as the integer at its front : blanks are passed over, one sign may follow, and
the digits up to the first other byte are its value. Without a digit the value is 0. Values
outside of the 64-bit range stop at its ends.
-/

namespace ChatLink.Timestamp

open ChatLink.Text

/-- The blanks of ASCII : tab, line feed, form feed, carriage return and space. -/
def isBlank (b : UInt8) : Bool :=
  b = 0x09 || b = 0x0a || b = 0x0c || b = 0x0d || b = 0x20

/-- The nearest value of the 64-bit range. -/
def saturate (n : Int) : Int := max (-0x8000000000000000) (min n 0x7fffffffffffffff)

/-- One more digit of a number, which stops at the ends of the range in both its steps. -/
def appendDigit (negative : Bool) (value : Int) (b : UInt8) : Int :=
  let digit : Int := (b.toNat - 0x30 : Nat)
  saturate (if negative then saturate (value * 10) - digit else saturate (value * 10) + digit)

/-- Whether a minus sign stands in front, and what follows the sign. -/
def splitSign : List UInt8 → Bool × List UInt8
  | 0x2d :: rest => (true, rest)
  | 0x2b :: rest => (false, rest)
  | rest => (false, rest)

/-- The integer at the front of a literal. -/
def leading (literal : List UInt8) : Int64 :=
  let (negative, rest) := splitSign (literal.dropWhile isBlank)
  Int64.ofInt ((rest.takeWhile isDigit).foldl (appendDigit negative) 0)

end ChatLink.Timestamp
