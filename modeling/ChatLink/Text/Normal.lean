import ChatLink.Text.Combining
import ChatLink.Text.Composition

/-!
# Normal form

The same text can be written in several ways : with marks or with characters that hold them, and
with marks in another order. Its normal form takes all characters apart, puts the marks in order,
and joins again what can be joined. A text is *normal* if it is its own normal form.
-/

namespace ChatLink.Text

/-- A character taken apart; `depth` is how many times it is taken apart at most. -/
def takeApart : Nat → Nat → List Nat
  | 0, n => [n]
  | depth + 1, n =>
    match parts? n with
    | some (first, second) => takeApart depth first ++ [second]
    | none => [n]

/-- A character taken apart. None is made of more than five. -/
def decompose (n : Nat) : List Nat := takeApart 4 n

/-- A character put in front of characters that are in order : it moves behind marks of lower
class. -/
def putInOrder (n : Nat) : List Nat → List Nat
  | [] => [n]
  | m :: rest =>
    if 0 < combiningClass m ∧ combiningClass m < combiningClass n then m :: putInOrder n rest
    else n :: m :: rest

/-- The marks behind every character in increasing order of their classes. -/
def inOrder (ns : List Nat) : List Nat := ns.foldr putInOrder []

/-- A text joined from a character on, to which the marks `held` (the last in front) belong that it
could not be joined with. Only a mark of higher class reaches past these. -/
def joinFrom (start : Nat) (held : List Nat) : List Nat → List Nat
  | [] => start :: held.reverse
  | n :: rest =>
    let reaches := held.head?.all fun m => combiningClass m < combiningClass n
    match if reaches then whole? start n else none with
    | some whole => joinFrom whole held rest
    | none =>
      if combiningClass n = 0 then start :: (held.reverse ++ joinFrom n [] rest)
      else joinFrom start (n :: held) rest

/-- The normal form of a text. -/
def normalForm (ns : List Nat) : List Nat :=
  match inOrder (ns.flatMap decompose) with
  | [] => []
  | n :: rest => joinFrom n [] rest

/-- A text that is its own normal form. -/
def isNormal (ns : List Nat) : Bool := normalForm ns == ns

end ChatLink.Text
