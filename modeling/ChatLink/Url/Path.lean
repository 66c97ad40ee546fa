import ChatLink.Url.Percent

/-!
# Paths of addresses

A path is a list of segments with slashes between them. A segment that is one dot stands for the
place where it is, one that is two dots for the place above; a dot may be percent-encoded. Going up
stops at the root, and at a segment that looks like the letter of a drive.
-/

namespace ChatLink.Url.Path

/-- A segment with its encoded dots as dots, as far as it consists of dots. -/
def dots : List Char → List Char
  | '%' :: '2' :: 'e' :: rest | '%' :: '2' :: 'E' :: rest => '.' :: dots rest
  | c :: rest => c :: dots rest
  | [] => []

/-- A letter with a colon or a bar after it. -/
def isDrive (segment : String) : Bool :=
  match segment.toList with
  | [letter, mark] => letter.isAlpha && (mark == ':' || mark == '|')
  | _ => false

/-- The segments above the newest one; `path` has the newest segment first. -/
def up : List String → List String
  | [] => []
  | segment :: path => if isDrive segment then segment :: path else path

/-- The segments of a path, newest first, after the written segments that remain. Dots at the end
of a path leave an empty segment there. -/
def resolve (path : List String) : List (List Char) → List String
  | [] => path
  | segment :: rest =>
    if dots segment = ['.', '.'] then
      if rest.isEmpty then "" :: up path else resolve (up path) rest
    else if dots segment = ['.'] then
      if rest.isEmpty then "" :: path else resolve path rest
    else resolve (Percent.encode Percent.inPath segment :: path) rest

/-- The path that is written with slashes of either kind between its segments. -/
def parse (cs : List Char) : List String :=
  (resolve [] ((cs.map fun c => if c = '\\' then '/' else c).splitOn '/')).reverse

/-- The written form of a path. -/
def text (path : List String) : String := "/" ++ "/".intercalate path

end ChatLink.Url.Path
