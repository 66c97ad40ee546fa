import ChatLink.Text.Digit
import ChatLink.Yaml.Spot

/-!
# Tags and directives

A tag is written in full between angle brackets, or as a handle and a suffix. Directives in front of
a document say which version it is written in, and what handles stand for.
-/

namespace ChatLink.Yaml

/-! ## Characters of tags -/

/-- A character of a tag. -/
def isTagChar (c : Char) : Bool :=
  isNameChar c || [';', '/', '?', ':', '@', '&', '=', '+', '$', '.', '%', '!', '~', '*', '\'', '(',
    ')'].contains c

/-- A character of a tag that is written where no flow collection can be meant. -/
def isLooseTagChar (c : Char) : Bool := isTagChar c || [',', '[', ']'].contains c

/-- How many bytes follow the first byte of a character. -/
def bytesAfter? (lead : Nat) : Option Nat :=
  if lead < 0x80 then some 0
  else if lead / 0x20 = 6 then some 1
  else if lead / 0x10 = 14 then some 2
  else if lead / 0x08 = 30 then some 3
  else none

/-- The bytes of a tag, of which so many must come to complete a character. Bytes may be written as
a percent sign and two digits, but characters only as a whole. -/
def tagBytes? (missing : Nat) : List Char → Option (List UInt8)
  | [] => if missing = 0 then some [] else none
  | '%' :: a :: b :: rest => do
    let n ← Text.numeral? 16 (String.ofList [a, b]).toUTF8.toList
    let more ←
      if missing = 0 then bytesAfter? n else if n / 0x40 = 2 then some (missing - 1) else none
    let bytes ← tagBytes? more rest
    return UInt8.ofNat n :: bytes
  | c :: rest =>
    if missing = 0 && c != '%' then (tagBytes? 0 rest).map (UInt8.ofNat c.toNat :: ·) else none

/-- The bytes of a tag; a null byte ends it. -/
def tagText? (spots : List Spot) : Option (List UInt8) :=
  (tagBytes? 0 (spots.map (·.char))).map fun bytes => bytes.takeWhile (· != 0)

/-! ## Tags -/

/-- What may be a handle at the front : an exclamation mark and the name behind it, with a second
exclamation mark behind the name if there is one. -/
def handle? : List Spot → Option (List Spot × List Spot)
  | [] => none
  | s :: rest =>
    if s.char == '!' then
      let (name, rest) := span isNameChar rest
      match rest with
      | e :: rest =>
        if e.char == '!' then some (s :: name ++ [e], rest) else some (s :: name, e :: rest)
      | [] => some (s :: name, [])
    else none

/-- It ends in a second exclamation mark, and so is a handle. -/
def isClosed (handle : List Spot) : Bool :=
  decide (1 < handle.length) && handle.getLast?.any (·.char == '!')

/-- A tag as it is written : without a handle if it is given in full. -/
structure WrittenTag where
  handle : String
  suffix : List UInt8
  deriving DecidableEq, Repr

/-- The tag at the front, without a look at what follows it. -/
def tagBody? (spots : List Spot) : Option (WrittenTag × List Spot) := do
  if atOneOf ['<'] (spots.drop 1) then
    let (body, rest) := span isLooseTagChar (spots.drop 2)
    let suffix ← tagText? body
    if body.isEmpty || !atOneOf ['>'] rest then none
    else return (⟨"", suffix⟩, rest.drop 1)
  else
    let (handle, rest) ← handle? spots
    let (body, rest) := span isTagChar rest
    if isClosed handle then
      let suffix ← tagText? body
      if body.isEmpty then none else return (⟨textOf handle, suffix⟩, rest)
    else
      let suffix ← tagText? (handle.drop 1 ++ body)
      return (if suffix.isEmpty then ⟨"", "!".toUTF8.toList⟩ else ⟨"!", suffix⟩, rest)

/-- The tag at the front. A gap must follow it, or a comma between braces. -/
def tag? (flow : Bool) (spots : List Spot) : Option (WrittenTag × List Spot) := do
  let (tag, rest) ← tagBody? spots
  if atGap rest || (flow && atOneOf [','] rest) then return (tag, rest) else none

/-! ## Directives -/

/-- What can be said in front of a document. -/
inductive Directive where
  | version (major minor : Nat)
  /-- What a handle stands for. -/
  | handle (name : String) (meaning : List UInt8)
  deriving DecidableEq, Repr

/-- A number of at most nine digits. -/
def number? (spots : List Spot) : Option (Nat × List Spot) := do
  let (digits, rest) := span Char.isDigit spots
  if 9 < digits.length then none
  else return (← Text.numeral? 10 (textOf digits).toUTF8.toList, rest)

/-- The two numbers of a version. -/
def version? (spots : List Spot) : Option (Directive × List Spot) := do
  let (major, rest) ← number? (dropBlanks spots)
  if atOneOf ['.'] rest then
    let (minor, rest) ← number? (rest.drop 1)
    return (.version major minor, rest)
  else none

/-- A handle and its meaning. -/
def handleMeaning? (spots : List Spot) : Option (Directive × List Spot) := do
  let (handle, rest) ← handle? (dropBlanks spots)
  if (isClosed handle || handle.length = 1) && atOneOf [' ', '\t'] rest then
    let (body, rest) := span isLooseTagChar (dropBlanks rest)
    let meaning ← tagText? body
    if body.isEmpty || !atGap rest then none
    else return (.handle (textOf handle) meaning, rest)
  else none

/-- The directive whose percent sign is already taken off, and the lines below. -/
def directive? (spots : List Spot) : Option (Directive × List Spot) := do
  let (name, rest) := span isNameChar spots
  if atGap rest then
    let (directive, rest) ←
      match textOf name with
      | "YAML" => version? rest
      | "TAG" => handleMeaning? rest
      | _ => none
    return (directive, ← nextLine? rest)
  else none

end ChatLink.Yaml
