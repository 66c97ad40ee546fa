import ChatLink.Yaml.Spot

/-!
# Scalars

The texts in a YAML document, and how gaps within them count : blanks in the middle of a line stand
for themselves, and line breaks are folded.
-/

namespace ChatLink.Yaml

/-- How a scalar is written. -/
inductive Style where
  | plain
  | quoted
  | literal
  | folded
  deriving DecidableEq, Repr

/-- A scalar as it counts for its reader. -/
structure Scalar where
  text : String
  style : Style
  /-- The bytes of its tag. -/
  tag : Option (List UInt8)
  deriving DecidableEq, Repr

/-- What is written where nothing is. -/
def Scalar.empty : Scalar := ⟨"", .plain, none⟩

/-- The line breaks of a gap when they are folded : a single new line is a space, and of several the
first does not count. -/
def foldBreaks : List Char → List Char
  | ['\n'] => [' ']
  | '\n' :: more => more
  | breaks => breaks

/-- What a gap inside a scalar stands for. -/
def gapText (gap : List Char) : List Char :=
  if gap.any isBreak then foldBreaks (gap.filter isBreak) else gap

end ChatLink.Yaml
