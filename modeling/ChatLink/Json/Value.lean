import ChatLink.Json.Lexeme

/-!
# JSON values

The tree that a JSON text describes. Strings, keys and literals are kept as they are written.
`Value.read?` reads strict JSON : one value with blanks around it and nothing else.
-/

namespace ChatLink.Json

/-- A value; the members of an object stand in the order in which they are written. -/
inductive Value where
  | string (body : List UInt8)
  | primitive (literal : List UInt8)
  | array (elements : List Value)
  | object (members : List (List UInt8 × Value))

namespace Value

/-- A container that is not finished, with what it holds so far, last first. -/
inductive Partial where
  | array (elements : List Value)
  | object (members : List (List UInt8 × Value))
  /-- An object that waits for the value of a key. -/
  | member (members : List (List UInt8 × Value)) (key : List UInt8)

/-- What a text may go on with. -/
inductive Want where
  | value
  /-- The first element of an array, or its end. -/
  | element
  /-- The first member of an object, or its end. -/
  | member
  | key
  | colon
  /-- A comma or the end of a container. -/
  | separator
  | nothing
  deriving DecidableEq

/-- The state between two words : the unfinished containers, innermost first, and the value that
is finished, if all are. -/
structure Builder where
  containers : List Partial
  root : Option Value
  want : Want

namespace Builder

/-- A value is finished. -/
def put (s : Builder) (v : Value) : Option Builder :=
  match s.containers with
  | [] => some ⟨[], some v, .nothing⟩
  | .array elements :: outer => some ⟨.array (v :: elements) :: outer, none, .separator⟩
  | .member members key :: outer => some ⟨.object ((key, v) :: members) :: outer, none, .separator⟩
  | .object _ :: _ => none

/-- The innermost container is finished. -/
def close (s : Builder) (kind : Kind) : Option Builder :=
  match kind, s.containers with
  | .array, .array elements :: outer =>
    { s with containers := outer }.put (.array elements.reverse)
  | .object, .object members :: outer =>
    { s with containers := outer }.put (.object members.reverse)
  | _, _ => none

/-- The innermost object goes on with a key. -/
def putKey (s : Builder) (key : List UInt8) : Option Builder :=
  match s.containers with
  | .object members :: outer => some ⟨.member members key :: outer, none, .colon⟩
  | _ => none

/-- What stands after a comma. -/
def afterComma (s : Builder) : Option Builder :=
  match s.containers with
  | .array _ :: _ => some { s with want := .value }
  | .object _ :: _ => some { s with want := .key }
  | _ => none

/-- A value begins, or is there as a whole. -/
def begin (s : Builder) : Lexeme → Option Builder
  | .string body => s.put (.string body)
  | .primitive literal => s.put (.primitive literal)
  | .opening .array => some ⟨.array [] :: s.containers, none, .element⟩
  | .opening .object => some ⟨.object [] :: s.containers, none, .member⟩
  | _ => none

/-- One word. -/
def step (s : Builder) (word : Lexeme) : Option Builder :=
  match s.want, word with
  | .value, word => s.begin word
  | .element, .closing kind => s.close kind
  | .element, word => s.begin word
  | .member, .closing kind => s.close kind
  | .member, .string key => s.putKey key
  | .key, .string key => s.putKey key
  | .colon, .colon => some { s with want := .value }
  | .separator, .comma => s.afterComma
  | .separator, .closing kind => s.close kind
  | _, _ => none

end Builder

/-- The value that the words of a text describe. -/
def ofLexemes? (words : List Lexeme) : Option Value :=
  (words.foldlM Builder.step ⟨[], none, .value⟩).bind (·.root)

/-- The value that a text describes. -/
def read? (text : List UInt8) : Option Value := (Lexeme.scan text).bind ofLexemes?

end Value

end ChatLink.Json
