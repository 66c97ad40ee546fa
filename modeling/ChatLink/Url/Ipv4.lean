import ChatLink.Text.Digit

/-!
# IPv4 addresses in host names

A host name whose last label is a number is an IPv4 address. The address has up to four numbers
with dots between them, in decimal, octal (a zero in front) or hexadecimal (`0x` in front); the
last number fills all the bytes that the others leave. One dot may stand at the end.
-/

namespace ChatLink.Url.Ipv4

open ChatLink.Text

/-- The number that a label spells. A base without digits after it spells zero. -/
def number? (label : List UInt8) : Option Nat :=
  match label with
  | 0x30 :: 0x78 :: digits | 0x30 :: 0x58 :: digits =>
    if digits.isEmpty then some 0 else numeral? 16 digits
  | 0x30 :: d :: digits => numeral? 8 (d :: digits)
  | digits => numeral? 10 digits

/-- The labels of a host name, without an empty one at the end. -/
def labels (name : List UInt8) : List (List UInt8) :=
  let all := name.splitOn 0x2e
  if all.getLast? = some [] then all.dropLast else all

/-- The last label is a number, so the name has to be an address. -/
def endsInNumber (name : List UInt8) : Bool :=
  match (labels name).getLast? with
  | none => false
  | some label => (!label.isEmpty && label.all isDigit) || (number? label).isSome

/-- The address that the numbers before the last one and the last one spell. -/
def ofNumbers? (front : List Nat) (last : Nat) : Option Nat :=
  if front.length ≤ 3 ∧ front.all (· ≤ 255) ∧ last < Nat.pow 256 (4 - front.length) then
    some (front.foldl (fun n b => n * 256 + b) 0 * Nat.pow 256 (4 - front.length) + last)
  else none

/-- The address that a host name spells. -/
def address? (name : List UInt8) : Option Nat := do
  let numbers ← (labels name).mapM number?
  ofNumbers? numbers.dropLast (← numbers.getLast?)

/-- The four bytes of an address with dots between them. -/
def text (address : Nat) : String :=
  ".".intercalate
    ([address / 0x1000000, address / 0x10000, address / 0x100, address].map fun n =>
      toString (n % 256))

end ChatLink.Url.Ipv4
