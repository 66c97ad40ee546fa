/-!
# Characters in their places

What a YAML text means depends on where its characters stand. `spots` gives each character of a
text its line and its column, and refuses texts with characters that YAML does not allow. The
classes of characters on which everything else is built stand here too.
-/

namespace ChatLink.Yaml

/-- A character with the line and the column where it stands, both counted from 0. -/
structure Spot where
  char : Char
  line : Nat
  column : Nat
  deriving DecidableEq, Repr

/-! ## Classes of characters -/

/-- A character that may stand in a text. -/
def isAllowed (c : Char) : Bool :=
  let n := c.toNat
  n == 0x09 || n == 0x0a || n == 0x0d || (0x20 ≤ n && n ≤ 0x7e) || n == 0x85
    || (0xa0 ≤ n && n ≤ 0xfffd) || 0x10000 ≤ n

/-- A line break, once all kinds of new lines are written as one. -/
def isBreak (c : Char) : Bool := c == '\n' || c == '\u2028' || c == '\u2029'

/-- A space or a tab. -/
def isBlank (c : Char) : Bool := c == ' ' || c == '\t'

/-- What separates words : blanks and line breaks. -/
def isGap (c : Char) : Bool := isBlank c || isBreak c

/-- What names are made of. -/
def isNameChar (c : Char) : Bool := c.isAlphanum || c == '-' || c == '_'

/-! ## Places -/

/-- The characters of a text with all kinds of new lines written as one. -/
def unifyBreaks : List Char → List Char
  | '\r' :: '\n' :: rest => '\n' :: unifyBreaks rest
  | c :: rest => (if c == '\r' || c == '\x85' then '\n' else c) :: unifyBreaks rest
  | [] => []

/-- The characters in their places, from a given place on. -/
def place (line column : Nat) : List Char → List Spot
  | [] => []
  | c :: rest =>
    ⟨c, line, column⟩ :: if isBreak c then place (line + 1) 0 rest else place line (column + 1) rest

/-- The characters of a text in their places. -/
def spots? (text : String) : Option (List Spot) :=
  if text.toList.all isAllowed then some (place 0 0 (unifyBreaks text.toList)) else none

/-! ## What comes next -/

/-- The text of some characters. -/
def textOf (spots : List Spot) : String := String.ofList (spots.map (·.char))

/-- A gap comes next, or the end of the text. -/
def atGap : List Spot → Bool
  | [] => true
  | s :: _ => isGap s.char

/-- One of these characters comes next. -/
def atOneOf (chars : List Char) : List Spot → Bool
  | [] => false
  | s :: _ => chars.contains s.char

/-- A line begins with this character three times, and with nothing behind it. -/
def atMarker (c : Char) : List Spot → Bool
  | a :: b :: d :: rest =>
    a.column == 0 && a.char == c && b.char == c && d.char == c && atGap rest
  | _ => false

/-- A document ends or begins here. -/
def atDocument (spots : List Spot) : Bool := atMarker '-' spots || atMarker '.' spots

/-- The characters at the front that belong to a class, and the rest. -/
def span (p : Char → Bool) (spots : List Spot) : List Spot × List Spot :=
  (spots.takeWhile fun s => p s.char, spots.dropWhile fun s => p s.char)

/-- What follows the blanks at the front. -/
def dropBlanks (spots : List Spot) : List Spot := (span isBlank spots).2

/-- The next line, if there is only a comment left on this one. -/
def nextLine? (spots : List Spot) : Option (List Spot) :=
  let rest := dropBlanks spots
  let rest := if atOneOf ['#'] rest then (span (fun c => !isBreak c) rest).2 else rest
  match rest with
  | [] => some []
  | s :: rest => if isBreak s.char then some rest else none

end ChatLink.Yaml
