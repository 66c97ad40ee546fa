import ChatLink.Text.Direction
import ChatLink.Text.Joining
import ChatLink.Text.Normal
import ChatLink.Url.NameCharacter
import ChatLink.Url.Punycode

/-!
# Labels of host names

A host name consists of labels. A label that begins with `xn--` stands for a text in other scripts,
written in Punycode. A name is in order if every such text is one that nobody could write in
another way, and if no label stands in the way of others when they are shown from right to left.
-/

namespace ChatLink.Url

open ChatLink.Text

/-- The text that a label stands for, as code points. -/
abbrev Label := List Nat

namespace Label

/-- How many characters are read behind `xn--`. -/
def maxEncodedLength : Nat := 2000

/-- How many characters a label in Punycode stands for at most. -/
def maxLength : Nat := 1000

/-! ## Joiners -/

/-- Keeps two letters apart that would join. -/
def nonJoiner : Nat := 0x200c

/-- Joins two letters that would not join. -/
def joiner : Nat := 0x200d

/-- Whether the first of these characters that is not a mark joins in one of these ways. -/
def joins (ways : List Joining) (ns : List Nat) : Bool :=
  ((ns.map joining).dropWhile (· == .through)).head?.any ways.contains

/-- A joiner has its place behind a mark that takes the vowel from a letter. One that keeps letters
apart has it also between two letters that join. The characters `before` stand from the joiner
backwards. -/
def mayStand (before : List Nat) (n : Nat) (after : List Nat) : Bool :=
  if n = nonJoiner ∨ n = joiner then
    before.head?.any (combiningClass · == viramaClass)
      || n == nonJoiner && joins [.next, .both] before && joins [.previous, .both] after
  else true

/-- Whether every joiner is in its place. -/
def joinersStand (before : List Nat) : List Nat → Bool
  | [] => true
  | n :: after => mayStand before n after && joinersStand (n :: before) after

/-! ## Direction -/

/-- A label goes with labels from the right if it is from one side : it begins with a letter, holds
none from the other side and no digits of two kinds, and ends with a letter or digit, marks left
out. Labels from the left hold no digits that are only used with scripts from the right. -/
def keepsSide (ds : List Direction) : Bool :=
  let last := (ds.reverse.dropWhile (· == .mark)).head?
  match ds.head? with
  | none => true
  | some .left =>
    ds.all [.left, .digit, .neutral, .mark].contains && last.any [.left, .digit].contains
  | some .right =>
    !ds.contains .left && last.any [.right, .digit, .arabicDigit].contains
      && !(ds.contains .digit && ds.contains .arabicDigit)
  | some _ => false

/-- Whether labels can be shown together. All go if none is from the right. -/
def keepSides (labels : List Label) : Bool :=
  let sides := labels.map (·.map direction)
  sides.all keepsSide || !sides.any (·.any [.right, .arabicDigit].contains)

/-! ## Names -/

/-- A text that may be written in Punycode. -/
def isWritten (label : Label) : Bool :=
  label.length ≤ maxLength && label.all isNameCharacter && isNormal label
    && !label.head?.any isMark && joinersStand [] label

/-- The label that is written with these ASCII characters. -/
def ofAscii? (cs : List Char) : Option Label :=
  if ['x', 'n', '-', '-'].isPrefixOf cs then
    let encoded := cs.drop 4
    if encoded.length ≤ maxEncodedLength then (Punycode.decode? encoded).filter isWritten else none
  else some (cs.map Char.toNat)

/-- Whether labels in ASCII make a name that is in order. -/
def areInOrder (labels : List (List Char)) : Bool := (labels.mapM ofAscii?).any keepSides

end Label

end ChatLink.Url
