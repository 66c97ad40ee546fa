import ChatLink.Text.Digit

/-!
# Numbers

Natural numbers as plain scalars spell them : decimal, or in base 16, 8 or 2 behind `0x`, `0o` or
`0b`, all perhaps with a plus sign in front. A decimal number has no zeros in front.
-/

namespace ChatLink.Yaml

/-- The bases that have a mark, with their marks. -/
def markedBases : List (List Char × Nat) := [(['0', 'x'], 16), (['0', 'o'], 8), (['0', 'b'], 2)]

/-- The characters without a plus sign in front. -/
def dropPlus : List Char → List Char
  | '+' :: rest => rest
  | chars => chars

/-- Several digits of which the first is zero. -/
def hasLeadingZero : List Char → Bool
  | '0' :: c :: rest => (c :: rest).all Char.isDigit
  | _ => false

/-- The number that digits of a base spell. -/
def digits? (base : Nat) (chars : List Char) : Option Nat :=
  Text.numeral? base (String.ofList chars).toUTF8.toList

/-- The base and the digits of a number without its sign. -/
def baseAndDigits (chars : List Char) : Nat × List Char :=
  match markedBases.find? fun (mark, _) => mark.isPrefixOf chars with
  | some (_, base) => (base, chars.drop 2)
  | none => (10, chars)

/-- The natural number below a limit that a scalar spells. -/
def naturalBelow? (limit : Nat) (text : String) : Option Nat := do
  let chars := dropPlus text.toList
  let (base, digits) := baseAndDigits chars
  let n ← digits? base digits
  if hasLeadingZero chars ∨ limit ≤ n then none else return n

end ChatLink.Yaml
