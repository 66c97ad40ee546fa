import ChatLink.Yaml.Scalar

/-!
# Plain scalars

A plain scalar is a row of words with gaps between them. It ends before a comment, before a colon
that has a gap behind it, where a line is not indented enough, and where the document ends; between
braces it also ends before the characters that structure a flow collection.
-/

namespace ChatLink.Yaml

/-- The characters that structure flow collections. -/
def flowIndicators : List Char := [',', '[', ']', '{', '}']

/-- The word at the front, which may be empty, and what follows it. Between braces a colon cannot
stand directly before an indicator. -/
def word? (flow : Bool) : List Spot → Option (List Char × List Spot)
  | [] => some ([], [])
  | s :: rest =>
    if isGap s.char then some ([], s :: rest)
    else if flow && s.char == ':' && atOneOf ('?' :: flowIndicators) rest then none
    else if (s.char == ':' && atGap rest) || (flow && flowIndicators.contains s.char) then
      some ([], s :: rest)
    else (word? flow rest).map fun (word, rest) => (s.char :: word, rest)

/-- A plain scalar that was read. -/
structure Plain where
  text : Array Char
  /-- The gap behind it reaches into another line. -/
  broken : Bool
  /-- What follows the gap behind it. -/
  rest : List Spot

/-- A tab stands in the indentation of a line within a gap. -/
def hasStrayTab (indent : Nat) (gap : List Spot) : Bool :=
  (gap.dropWhile fun s => !isBreak s.char).any fun s => s.char == '\t' && decide (s.column < indent)

/-- The next character is not indented enough. -/
def isOutside (indent : Nat) : List Spot → Bool
  | [] => true
  | s :: _ => decide (s.column < indent)

/-- `plain?` after `text` and a gap, for so many words at most. -/
def plainFrom? (flow : Bool) (indent : Nat) :
    Nat → Array Char → List Char → List Spot → Option Plain
  | 0, _, _, _ => none
  | fuel + 1, text, gap, spots =>
    let here : Plain := ⟨text, gap.any isBreak, spots⟩
    if atDocument spots || atOneOf ['#'] spots then some here
    else
      match word? flow spots with
      | none => none
      | some ([], _) => some here
      | some (word, rest) =>
        let text := text ++ gapText gap ++ word
        let (gap, rest) := span isGap rest
        if hasStrayTab indent gap then none
        else
          let gap := gap.map (·.char)
          if gap.isEmpty || (!flow && isOutside indent rest) then
            some ⟨text, gap.any isBreak, rest⟩
          else plainFrom? flow indent fuel text gap rest

/-- The plain scalar at the front, whose further lines have at least this indentation. -/
def plain? (flow : Bool) (indent : Nat) (spots : List Spot) : Option Plain :=
  plainFrom? flow indent (spots.length + 1) #[] [] spots

end ChatLink.Yaml
