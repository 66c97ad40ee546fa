import ChatLink.Yaml.Token

/-!
# Documents

A document is one mapping from scalars to scalars. `Document.ofTokens?` groups tokens into nodes,
and `Document.entries?` puts the scalars that aliases stand for in their places. `entries?` reads a
text, which must hold exactly one document.
-/

namespace ChatLink.Yaml

/-- A key or a value. -/
inductive Node where
  | scalar (anchor : Option String) (s : Scalar)
  /-- What an anchor of this name marks. -/
  | alias (name : String)
  deriving DecidableEq, Repr

/-- Nothing is written. -/
def Node.empty : Node := .scalar none .empty

/-- A mapping, with the anchor that marks it as a whole. -/
structure Document where
  anchor : Option String
  pairs : List (Node × Node)
  deriving DecidableEq, Repr

/-! ## Tags -/

/-- What handles stand for. -/
abbrev Handles := List (String × List UInt8)

/-- The handles that need no directive. -/
def defaultHandles : Handles :=
  [("!", "!".toUTF8.toList), ("!!", "tag:yaml.org,2002:".toUTF8.toList)]

/-- The versions of YAML that are read. -/
def isKnownVersion (major minor : Nat) : Bool := major == 1 && (minor == 1 || minor == 2)

/-- What handles stand for behind some directives. The version, and each handle, can be given only
once. -/
def handles? (directives : List Directive) : Option Handles :=
  let versions := directives.filterMap fun
    | .version major minor => some (major, minor)
    | .handle _ _ => none
  let given := directives.filterMap fun
    | .version _ _ => none
    | .handle name meaning => some (name, meaning)
  if versions.length ≤ 1 ∧ (versions.all fun v => isKnownVersion v.1 v.2)
      ∧ (given.map (·.1)).Nodup then
    some (given ++ defaultHandles)
  else none

/-- The full form of a tag. -/
def WrittenTag.resolve? (t : WrittenTag) (handles : Handles) : Option (List UInt8) :=
  if t.handle = "" then some t.suffix else (handles.lookup t.handle).map (· ++ t.suffix)

/-! ## Nodes -/

/-- What can stand in front of a node. -/
structure Properties where
  anchor : Option String
  tag : Option (List UInt8)

/-- The properties at the front, in either order, and what follows them. -/
def properties? (handles : Handles) : List Token → Option (Properties × List Token)
  | .anchor a :: .tag t :: rest => (t.resolve? handles).map fun tag => (⟨some a, some tag⟩, rest)
  | .tag t :: .anchor a :: rest => (t.resolve? handles).map fun tag => (⟨some a, some tag⟩, rest)
  | .anchor a :: rest => some (⟨some a, none⟩, rest)
  | .tag t :: rest => (t.resolve? handles).map fun tag => (⟨none, some tag⟩, rest)
  | tokens => some (⟨none, none⟩, tokens)

/-- The node at the front. Properties alone make an empty node. -/
def node? (handles : Handles) (tokens : List Token) : Option (Node × List Token) :=
  match tokens with
  | .alias name :: rest => some (.alias name, rest)
  | tokens =>
    match properties? handles tokens with
    | none => none
    | some (p, .scalar text style :: rest) =>
      some (.scalar p.anchor ⟨text, style, p.tag⟩, rest)
    | some (p, rest) =>
      if p.anchor.isNone ∧ p.tag.isNone then none
      else some (.scalar p.anchor { Scalar.empty with tag := p.tag }, rest)

/-- The node at the front, which is empty if one of these tokens comes next. -/
def nodeBefore? (handles : Handles) (stops : List Token) (tokens : List Token) :
    Option (Node × List Token) :=
  match tokens with
  | t :: _ => if stops.contains t then some (.empty, tokens) else node? handles tokens
  | [] => node? handles tokens

/-- The value at the front, which is empty unless a value is announced. -/
def valueBefore? (handles : Handles) (stops : List Token) (tokens : List Token) :
    Option (Node × List Token) :=
  match tokens with
  | .value :: rest => nodeBefore? handles stops rest
  | tokens => some (.empty, tokens)

/-! ## Mappings -/

/-- The pairs of a mapping without braces, so many at most, and what follows its end. -/
def blockPairs? (handles : Handles) : Nat → List Token → Option (List (Node × Node) × List Token)
  | 0, _ => none
  | _ + 1, .blockEnd :: rest => some ([], rest)
  | fuel + 1, .key :: rest => do
    let (key, rest) ← nodeBefore? handles [.key, .value, .blockEnd] rest
    let (value, rest) ← valueBefore? handles [.key, .value, .blockEnd] rest
    let (pairs, rest) ← blockPairs? handles fuel rest
    return ((key, value) :: pairs, rest)
  | _ + 1, _ => none

/-- One pair of a mapping between braces. A node that is not announced as a key has an empty
value. -/
def flowPair? (handles : Handles) : List Token → Option ((Node × Node) × List Token)
  | .key :: rest => do
    let (key, rest) ← nodeBefore? handles [.value, .entry, .flowEnd] rest
    let (value, rest) ← valueBefore? handles [.entry, .flowEnd] rest
    return ((key, value), rest)
  | tokens => do
    let (key, rest) ← node? handles tokens
    return ((key, .empty), rest)

/-- The pairs of a mapping between braces, so many at most, and what follows its end. A comma may
stand behind the last one. -/
def flowPairs? (handles : Handles) : Nat → List Token → Option (List (Node × Node) × List Token)
  | 0, _ => none
  | _ + 1, .flowEnd :: rest => some ([], rest)
  | fuel + 1, tokens => do
    let (pair, rest) ← flowPair? handles tokens
    match rest with
    | .flowEnd :: rest => return ([pair], rest)
    | .entry :: rest =>
      let (pairs, rest) ← flowPairs? handles fuel rest
      return (pair :: pairs, rest)
    | _ => none

namespace Document

/-- The directives at the front and what follows them. -/
def directives : List Token → List Directive × List Token
  | .directive d :: rest =>
    let (ds, rest) := directives rest
    (d :: ds, rest)
  | tokens => ([], tokens)

/-- What follows the beginning of a document. Directives have to be followed by a marker. -/
def content? (directives : List Directive) (tokens : List Token) : Option (List Token) :=
  match directives, tokens with
  | _, .documentStart :: rest => some rest
  | [], tokens => some tokens
  | _, _ => none

/-- The pairs of the mapping at the front, and what follows it. -/
def pairs? (handles : Handles) : List Token → Option (List (Node × Node) × List Token)
  | .blockStart :: rest => blockPairs? handles (rest.length + 1) rest
  | .flowStart :: rest => flowPairs? handles (rest.length + 1) rest
  | _ => none

/-- The document of some tokens, with nothing but the ends of documents behind it. -/
def ofTokens? (tokens : List Token) : Option Document := do
  let (directives, rest) := directives tokens
  let handles ← handles? directives
  let (p, rest) ← properties? handles (← content? directives rest)
  let (pairs, rest) ← pairs? handles rest
  if rest.all (· == .documentEnd) then return ⟨p.anchor, pairs⟩ else none

/-! ## Anchors -/

/-- The anchors that were met. An anchor gets as its number how many names there were before it; so
a name that is used again may share its number with the next new one, and the later of the two is
what the number stands for. -/
structure Anchors where
  names : List (String × Nat)
  /-- What the numbers stand for, the latest first; the mapping as a whole is no scalar. -/
  marked : List (Nat × Option Scalar)

/-- A node that may be marked is met. -/
def Anchors.meet (a : Anchors) (anchor : Option String) (s : Option Scalar) : Anchors :=
  match anchor with
  | none => a
  | some name =>
    let number := a.names.length
    { names := (name, number) :: a.names.filter (·.1 != name)
      marked := (number, s) :: a.marked }

/-- The numbers of aliases in place of their names, which must have been met before. -/
def byNumber? : List Node → Anchors → Option (List (Scalar ⊕ Nat) × Anchors)
  | [], a => some ([], a)
  | .scalar anchor s :: rest, a => do
    let (nodes, a) ← byNumber? rest (a.meet anchor (some s))
    return (.inl s :: nodes, a)
  | .alias name :: rest, a => do
    let number ← a.names.lookup name
    let (nodes, a) ← byNumber? rest a
    return (.inr number :: nodes, a)

/-- A list of keys and values in turn as pairs. -/
def paired : List Scalar → List (Scalar × Scalar)
  | key :: value :: rest => (key, value) :: paired rest
  | _ => []

/-- The keys and values of a document as scalars. -/
def entries? (d : Document) : Option (List (Scalar × Scalar)) := do
  let nodes := d.pairs.flatMap fun (key, value) => [key, value]
  let (nodes, a) ← byNumber? nodes ((Anchors.mk [] []).meet d.anchor none)
  let scalars ← nodes.mapM fun
    | .inl s => some s
    | .inr number => (a.marked.lookup number).join
  return paired scalars

end Document

/-- The keys and values of the one document in a text. -/
def entries? (text : String) : Option (List (Scalar × Scalar)) := do
  let document ← Document.ofTokens? (← tokens? text)
  document.entries?

end ChatLink.Yaml
