import ChatLink.Yaml.Scalar.Block
import ChatLink.Yaml.Scalar.Plain
import ChatLink.Yaml.Scalar.Quoted
import ChatLink.Yaml.Tag

/-!
# Tokens of a YAML text

The tokens of texts that hold mappings from scalars to scalars. Sequences and collections within
collections have no tokens : a text that holds one is refused here.

Whether a token begins a key is known only when a colon follows it. `Reader` therefore remembers the
last token that may turn out to begin one; the tokens for the key, and for the mapping if it is the
first, are then inserted before it. In a mapping without braces every token in the column of the
mapping has to turn out so.
-/

namespace ChatLink.Yaml

inductive Token where
  | directive (d : Directive)
  | documentStart
  | documentEnd
  /-- A mapping whose keys stand in one column. -/
  | blockStart
  | blockEnd
  /-- A mapping between braces. -/
  | flowStart
  | flowEnd
  /-- A comma. -/
  | entry
  | key
  | value
  | alias (name : String)
  | anchor (name : String)
  | tag (t : WrittenTag)
  | scalar (text : String) (style : Style)
  deriving DecidableEq, Repr

/-- A token that may turn out to begin a key. -/
structure Candidate where
  /-- How many tokens stand before it. -/
  index : Nat
  line : Nat
  column : Nat
  /-- It must turn out so. -/
  required : Bool
  deriving DecidableEq, Repr

/-- What is known after some tokens. -/
structure Reader where
  rest : List Spot
  /-- The column of the mapping without braces that is open. -/
  indent : Option Nat
  /-- A mapping between braces is open. -/
  flow : Bool
  /-- A key may begin here. -/
  keys : Bool
  candidate : Option Candidate
  tokens : List Token

namespace Reader

/-- Before the first token. -/
def initial (spots : List Spot) : Reader := ⟨spots, none, false, true, none, []⟩

/-- The longest key that can be recognised by the colon behind it. -/
def maxKeyLength : Nat := 1024

/-- What follows blanks, comments and empty lines, and whether a key may begin there. Tabs do not
count as blanks where a key may begin, except between braces. A byte order mark may begin a line. -/
def skipGap (flow : Bool) : Bool → Bool → List Spot → Bool × List Spot
  | _, keys, [] => (keys, [])
  | comment, keys, s :: rest =>
    if isBreak s.char then skipGap flow false (keys || !flow) rest
    else if comment || s.char == '#' then skipGap flow true keys rest
    else if s.char == ' ' || (s.char == '\t' && (flow || !keys))
        || (s.char == '\ufeff' && s.column == 0) then
      skipGap flow false keys rest
    else (keys, s :: rest)

/-- One more token. -/
def push (r : Reader) (t : Token) : Reader := { r with tokens := r.tokens ++ [t] }

/-- A token before others. -/
def insert (r : Reader) (index : Nat) (t : Token) : Reader :=
  { r with tokens := r.tokens.take index ++ t :: r.tokens.drop index }

/-- No token is a candidate any more. Fails if the candidate has to begin a key. -/
def forget (r : Reader) : Option Reader :=
  match r.candidate with
  | some ⟨_, _, _, true⟩ => none
  | _ => some { r with candidate := none }

/-- Keys are written in one line and are not too long : a candidate that can be none any more is
forgotten. -/
def forgetFar (r : Reader) (s : Spot) : Option Reader :=
  match r.candidate with
  | none => some r
  | some c =>
    if c.line < s.line ∨ c.column + maxKeyLength < s.column then r.forget else some r

/-- The token that begins here is the candidate from now on, if a key may begin here. -/
def nominate (r : Reader) (s : Spot) : Option Reader :=
  if r.keys then do
    let r ← r.forget
    return { r with
      candidate :=
        some ⟨r.tokens.length, s.line, s.column, !r.flow && r.indent == some s.column⟩ }
  else some r

/-- A mapping in this column ends where a token stands further to the left. -/
def closeBefore (r : Reader) (column : Nat) : Reader :=
  match r.indent with
  | some c => if !r.flow && decide (column < c) then { r.push .blockEnd with indent := none } else r
  | none => r

/-- The mapping ends, if one is open. -/
def closeBlock (r : Reader) : Reader :=
  match r.indent with
  | some _ => if r.flow then r else { r.push .blockEnd with indent := none }
  | none => r

/-- A mapping begins in this column, before the token of the given index, unless it is open already.
Fails if it would stand within another one. -/
def openBlock (r : Reader) (column index : Nat) : Option Reader :=
  if r.flow then some r
  else
    match r.indent with
    | none => some { r.insert index .blockStart with indent := some column }
    | some c => if c < column then none else some r

/-! ## The kinds of tokens -/

def takeDirective (r : Reader) (rest : List Spot) : Option Reader := do
  let r ← r.closeBlock.forget
  let (directive, rest) ← directive? rest
  return { r.push (.directive directive) with rest := rest, keys := false }

def takeMarker (r : Reader) (t : Token) : Option Reader := do
  let r ← r.closeBlock.forget
  return { r.push t with rest := r.rest.drop 3, keys := false }

def openFlow (r : Reader) (rest : List Spot) : Option Reader :=
  if r.flow || r.indent.isSome then none
  else some { r.push .flowStart with rest := rest, flow := true, keys := true, candidate := none }

def closeFlow (r : Reader) (rest : List Spot) : Option Reader :=
  if r.flow then
    some { r.push .flowEnd with rest := rest, flow := false, keys := false, candidate := none }
  else none

def takeEntry (r : Reader) (rest : List Spot) : Option Reader :=
  if r.flow then some { r.push .entry with rest := rest, keys := true, candidate := none }
  else none

/-- A question mark begins a key of any form. -/
def takeKey (r : Reader) (s : Spot) (rest : List Spot) : Option Reader := do
  if !r.flow && !r.keys then none
  else
    let r ← r.openBlock s.column r.tokens.length
    let r ← r.forget
    return { r.push .key with rest := rest, keys := !r.flow }

/-- A colon makes the candidate the beginning of a key. Without a candidate it follows a key that a
question mark began. -/
def takeValue (r : Reader) (s : Spot) (rest : List Spot) : Option Reader := do
  match r.candidate with
  | some c =>
    let r ← (r.insert c.index .key).openBlock c.column c.index
    return { r.push .value with rest := rest, candidate := none, keys := false }
  | none =>
    if !r.flow && !r.keys then none
    else
      let r ← r.openBlock s.column r.tokens.length
      return { r.push .value with rest := rest, keys := !r.flow }

/-- An alias or an anchor. A gap or an indicator must follow its name. -/
def takeName (r : Reader) (s : Spot) (rest : List Spot) (t : String → Token) : Option Reader := do
  let r ← r.nominate s
  let (name, rest) := span isNameChar rest
  if name.isEmpty || !(atGap rest || atOneOf ['?', ':', ',', ']', '}', '%', '@', '\x60'] rest) then
    none
  else return { r.push (t (textOf name)) with rest := rest, keys := false }

def takeTag (r : Reader) (s : Spot) : Option Reader := do
  let r ← r.nominate s
  let (t, rest) ← tag? r.flow r.rest
  return { r.push (.tag t) with rest := rest, keys := false }

def takeBlock (r : Reader) (literal : Bool) (rest : List Spot) : Option Reader := do
  let r ← r.forget
  let (text, rest) ← block? literal r.indent rest
  return { r.push (.scalar (String.ofList text) (if literal then .literal else .folded)) with
    rest := rest, keys := true }

def takeQuoted (r : Reader) (s : Spot) (double : Bool) (rest : List Spot) : Option Reader := do
  let r ← r.nominate s
  let (text, rest) ← quoted? double rest
  return { r.push (.scalar (String.ofList text) .quoted) with rest := rest, keys := false }

/-- A plain scalar. A key may begin behind it if that is in another line. -/
def takePlain (r : Reader) (s : Spot) : Option Reader := do
  let r ← r.nominate s
  let plain ← plain? r.flow ((r.indent.map (· + 1)).getD 0) r.rest
  return { r.push (.scalar (String.ofList plain.text.toList) .plain) with
    rest := plain.rest, keys := plain.broken }

/-- The characters that cannot begin a plain scalar. -/
def indicators : List Char :=
  ['-', '?', ':', ',', '[', ']', '{', '}', '#', '&', '*', '!', '|', '>', '\'', '"', '%', '@',
    '\x60']

/-- A plain scalar can begin here : with a character that is no indicator, or with one of a few that
has no gap behind it. -/
def beginsPlain (flow : Bool) (s : Spot) (rest : List Spot) : Bool :=
  !(isGap s.char || indicators.contains s.char)
    || (s.char == '-' && !atGap rest)
    || (!flow && (s.char == '?' || s.char == ':') && !atGap rest)

/-- The token that begins here. -/
def take (r : Reader) (s : Spot) (rest : List Spot) : Option Reader :=
  let loose := r.flow || atGap rest
  if s.column = 0 ∧ s.char = '%' then r.takeDirective rest
  else if atMarker '-' r.rest then r.takeMarker .documentStart
  else if atMarker '.' r.rest then r.takeMarker .documentEnd
  else if s.char = '{' then r.openFlow rest
  else if s.char = '}' then r.closeFlow rest
  else if s.char = ',' then r.takeEntry rest
  else if s.char = '?' ∧ loose then r.takeKey s rest
  else if s.char = ':' ∧ loose then r.takeValue s rest
  else if s.char = '*' then r.takeName s rest .alias
  else if s.char = '&' then r.takeName s rest .anchor
  else if s.char = '!' then r.takeTag s
  else if s.char = '|' ∧ !r.flow then r.takeBlock true rest
  else if s.char = '>' ∧ !r.flow then r.takeBlock false rest
  else if s.char = '\'' then r.takeQuoted s false rest
  else if s.char = '"' then r.takeQuoted s true rest
  else if beginsPlain r.flow s rest then r.takePlain s
  else none

/-- Reads tokens to the end of the text, so many at most. -/
def run : Nat → Reader → Option (List Token)
  | 0, _ => none
  | fuel + 1, r =>
    let (keys, spots) := skipGap r.flow false r.keys r.rest
    match spots with
    | [] => r.closeBlock.forget.map (·.tokens)
    | s :: rest => do
      let r ← { r with keys := keys, rest := spots }.forgetFar s
      let r ← (r.closeBefore s.column).take s rest
      run fuel r

end Reader

/-- The tokens of a text. -/
def tokens? (text : String) : Option (List Token) := do
  let spots ← spots? text
  Reader.run (spots.length + 1) (.initial spots)

end ChatLink.Yaml
