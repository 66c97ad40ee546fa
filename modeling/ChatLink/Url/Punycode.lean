/-!
# Punycode

Punycode writes a text in other scripts with ASCII characters. First come its own ASCII characters
and a hyphen, then where the others are put : each is a number in a variable-length notation with
digits `a` to `z` and `0` to `9`, of which the first is worth least. Numbers and the worth of their
digits have 32 bits.
-/

namespace ChatLink.Url.Punycode

/-- The value of a digit; letters count before the decimal digits. -/
def digit? (c : Char) : Option Nat :=
  if 'a' ≤ c ∧ c ≤ 'z' then some (c.toNat - 'a'.toNat)
  else if '0' ≤ c ∧ c ≤ '9' then some (c.toNat - '0'.toNat + 26)
  else none

/-- The state between two digits. -/
structure Reader where
  /-- The code points put so far. -/
  done : List Nat
  /-- The least code point that can come next. -/
  next : Nat
  /-- The place for the next code point, counted on through all code points. -/
  place : Nat
  /-- The place when the number that is being read began. -/
  origin : Nat
  bias : Nat
  /-- What the next digit of the number is worth. -/
  weight : Nat
  /-- Grows by 36 with every digit of the number. -/
  rank : Nat
  deriving Repr

/-- The digits that are not the last of their number are at least this one. -/
def threshold (rank bias : Nat) : Nat := max 1 (min 26 (rank - bias))

/-- The bias for numbers of about the size of `delta`, which is divided by 35 while too large. -/
def biasFor (delta : Nat) : Nat :=
  if 455 < delta then 36 + biasFor (delta / 35) else 36 * delta / (delta + 38)
termination_by delta

/-- The bias after a number of a text that then has `count` code points. -/
def adapt (delta count : Nat) (first : Bool) : Nat :=
  let delta := if first then delta / 700 else delta / 2
  biasFor (delta + delta / count)

/-- One digit. The number ends with a digit below its threshold. -/
def Reader.step (s : Reader) (c : Char) : Option Reader := do
  let d ← digit? c
  let place := s.place + d * s.weight
  let t := threshold s.rank s.bias
  if 0x100000000 ≤ place then none
  else if t ≤ d then
    let weight := s.weight * (36 - t)
    if 0x100000000 ≤ weight then none
    else some { s with place := place, weight := weight, rank := s.rank + 36 }
  else
    let count := s.done.length + 1
    let next := s.next + place / count
    if next.isValidChar then
      some ⟨s.done.insertIdx (place % count) next, next, place % count + 1, place % count + 1,
        adapt (place - s.origin) count (s.origin == 0), 1, 36⟩
    else none

/-- The code points of a text. -/
def decode? (text : List Char) : Option (List Nat) := do
  let back := text.reverse
  let digits := (back.takeWhile (· != '-')).reverse
  let basic := ((back.dropWhile (· != '-')).drop 1).reverse
  if digits.isEmpty ∨ (basic.isEmpty ∧ text.contains '-') then none
  else
    let s ← digits.foldlM Reader.step ⟨basic.map Char.toNat, 0x80, 0, 0, 72, 1, 36⟩
    if s.weight = 1 then some s.done else none

end ChatLink.Url.Punycode
