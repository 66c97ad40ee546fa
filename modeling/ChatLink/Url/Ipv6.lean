import ChatLink.Text.Digit

/-!
# IPv6 addresses

An address has eight pieces of sixteen bits, written in hexadecimal with colons between them. One
double colon may stand for one or more pieces that are zero, and the last two pieces may be
written as an IPv4 address. An address is written back with its longest run of two or more zeros
as a double colon, the first of several.
-/

namespace ChatLink.Url.Ipv6

open ChatLink.Text

/-- A piece of one to four hexadecimal digits. -/
def piece? (group : List UInt8) : Option Nat :=
  if group.length ≤ 4 then numeral? 16 group else none

/-- A decimal byte without zeros in front. -/
def byte? (digits : List UInt8) : Option Nat :=
  if digits.all isDigit ∧ (digits.length = 1 ∨ digits.head? ≠ some 0x30) ∧ digits.length ≤ 3 then
    (numeral? 10 digits).filter (· ≤ 255)
  else none

/-- The two pieces of an IPv4 address. -/
def embedded? (group : List UInt8) : Option (List Nat) :=
  match (group.splitOn 0x2e).map byte? with
  | [some a, some b, some c, some d] => some [a * 256 + b, c * 256 + d]
  | _ => none

/-- The pieces of groups between colons, the last of which may be an IPv4 address. -/
def pieces? : List (List UInt8) → Option (List Nat)
  | [] => some []
  | [group] => if group.contains 0x2e then embedded? group else (piece? group).map ([·])
  | group :: groups => do return (← piece? group) :: (← pieces? groups)

/-- What stands before the first double colon and what stands after it. -/
def splitDouble (before : List UInt8) : List UInt8 → Option (List UInt8 × List UInt8)
  | 0x3a :: 0x3a :: rest => some (before.reverse, rest)
  | b :: rest => splitDouble (b :: before) rest
  | [] => none

/-- The pieces of a side of a double colon, which may be empty. -/
def side? (text : List UInt8) : Option (List Nat) :=
  if text.isEmpty then some [] else pieces? (text.splitOn 0x3a)

/-- The eight pieces of an address. -/
def address? (text : List UInt8) : Option (List Nat) :=
  match splitDouble [] text with
  | none => (side? text).filter (·.length == 8)
  | some (before, after) =>
    if before.contains 0x2e then none
    else do
      let front ← side? before
      let back ← side? after
      if front.length + back.length ≤ 7 then
        some (front ++ List.replicate (8 - front.length - back.length) 0 ++ back)
      else none

/-- How many zeros stand at the front. -/
def leadingZeros (pieces : List Nat) : Nat := (pieces.takeWhile (· == 0)).length

/-- The place and the length of the longest run of zeros, the first of several. -/
def longestZeros (pieces : List Nat) : Nat × Nat :=
  (List.range pieces.length).foldl
    (fun best i =>
      let n := leadingZeros (pieces.drop i)
      if best.2 < n then (i, n) else best)
    (0, 0)

/-- Pieces with colons between them. -/
def groupText (pieces : List Nat) : String :=
  ":".intercalate (pieces.map fun n => String.ofList (Nat.toDigits 16 n))

/-- The written form of an address. -/
def text (pieces : List Nat) : String :=
  let (i, n) := longestZeros pieces
  if n < 2 then groupText pieces
  else groupText (pieces.take i) ++ "::" ++ groupText (pieces.drop (i + n))

end ChatLink.Url.Ipv6
