import ChatLink.Text.Digit
import ChatLink.Yaml.Scalar

/-!
# Block scalars

A block scalar is a run of lines with one indentation. Literal ones keep their lines; in folded ones
a line break between two lines that do not begin with a blank is folded. The header before the
lines says what becomes of the line breaks at the end, and may give the indentation.
-/

namespace ChatLink.Yaml

/-- What becomes of the line breaks at the end of a block scalar. -/
inductive Chomping where
  | strip
  /-- Only the first is kept. -/
  | clip
  | keep
  deriving DecidableEq, Repr

/-- What stands behind the indicator of a block scalar. -/
structure BlockHeader where
  chomping : Chomping
  /-- The indentation relative to the surrounding one, 0 if it is to be found out. -/
  increment : Nat
  deriving DecidableEq, Repr

/-- How a character says what becomes of the end. -/
def chomping? : Char → Option Chomping
  | '+' => some .keep
  | '-' => some .strip
  | _ => none

/-- The chomping at the front, if it is given. -/
def chomping : List Spot → Chomping × List Spot
  | [] => (.clip, [])
  | s :: rest =>
    match chomping? s.char with
    | some c => (c, rest)
    | none => (.clip, s :: rest)

/-- The indentation at the front, if it is given; a given one is not 0. -/
def increment? : List Spot → Option (Nat × List Spot)
  | [] => some (0, [])
  | s :: rest =>
    if s.char == '0' then none
    else if s.char.isDigit then some (s.char.toNat - '0'.toNat, rest)
    else some (0, s :: rest)

/-- The header at the front, whose two parts may stand in either order, and the lines below. -/
def blockHeader? (spots : List Spot) : Option (BlockHeader × List Spot) := do
  if atOneOf ['+', '-'] spots then
    let (chomping, rest) := chomping spots
    let (increment, rest) ← increment? rest
    return (⟨chomping, increment⟩, ← nextLine? rest)
  else
    let (increment, rest) ← increment? spots
    let (chomping, rest) := if increment = 0 then (.clip, rest) else chomping rest
    return (⟨chomping, increment⟩, ← nextLine? rest)

/-- The empty lines at the front of a block, and the indentation in front of what comes then. -/
structure EmptyLines where
  breaks : List Char
  /-- The deepest of the indentations. -/
  deepest : Nat
  rest : List Spot

/-- Reads empty lines, which may hold spaces up to the indentation; while that is unknown (0) any
number. A tab cannot stand there. -/
def emptyLines? (indent deepest : Nat) : List Spot → Option EmptyLines
  | [] => some ⟨[], deepest, []⟩
  | s :: rest =>
    let within := indent == 0 || decide (s.column < indent)
    if within && s.char == ' ' then emptyLines? indent deepest rest
    else if within && s.char == '\t' then none
    else
      let deepest := max deepest s.column
      if isBreak s.char then
        (emptyLines? indent deepest rest).map fun e => { e with breaks := s.char :: e.breaks }
      else some ⟨[], deepest, s :: rest⟩

/-- The lines that were read of a block. -/
structure Lines where
  text : Array Char
  /-- The line break at the end of the last line. -/
  final : List Char
  /-- The last line began with a blank. -/
  blank : Bool
  /-- The line breaks of the empty lines behind it. -/
  breaks : List Char
  rest : List Spot

/-- What joins a line to the lines before it. -/
def Lines.joint (l : Lines) (literal blank : Bool) : List Char :=
  if !literal && l.final == ['\n'] && !l.blank && !blank then
    if l.breaks.isEmpty then [' '] else l.breaks
  else l.final ++ l.breaks

/-- Reads lines of one indentation, so many at most. -/
def lines? (literal : Bool) (indent : Nat) : Nat → Lines → Option Lines
  | 0, _ => none
  | fuel + 1, l =>
    match l.rest with
    | [] => some l
    | s :: _ =>
      if s.column = indent then do
        let blank := isBlank s.char
        let (line, rest) := span (fun c => !isBreak c) l.rest
        let e ← emptyLines? indent 0 (rest.drop 1)
        lines? literal indent fuel
          { text := l.text ++ l.joint literal blank ++ line.map (·.char)
            final := (rest.take 1).map (·.char)
            blank := blank
            breaks := e.breaks
            rest := e.rest }
      else some l

/-- The text of the lines with this end. -/
def Lines.chomp (l : Lines) : Chomping → Array Char
  | .strip => l.text
  | .clip => l.text ++ l.final
  | .keep => l.text ++ l.final ++ l.breaks

/-- The text of a block scalar whose indicator is already taken off, and what follows it. The block
stands in a mapping of the given indentation, if it stands in one. -/
def block? (literal : Bool) (around : Option Nat) (spots : List Spot) :
    Option (List Char × List Spot) := do
  let (header, rest) ← blockHeader? spots
  let given := if header.increment = 0 then 0 else around.getD 0 + header.increment
  let e ← emptyLines? given 0 rest
  let least := max 1 ((around.map (· + 1)).getD 0)
  let indent := if given = 0 then max e.deepest least else given
  let l ← lines? literal indent (e.rest.length + 1) ⟨#[], [], false, e.breaks, e.rest⟩
  return ((l.chomp header.chomping).toList, l.rest)

end ChatLink.Yaml
