import ChatLink.Settings
import ChatLink.Text.Utf8
import ChatLink.Yaml.Document
import ChatLink.Yaml.Number

/-!
# Settings in a document

Settings are written as a YAML mapping with the keys `endpoint`, `token` and
`handshake_timeout_ms`. Only the first is required, and no other keys are allowed. `Settings.load`
reads settings and checks them.
-/

namespace ChatLink.Settings

open ChatLink.Yaml

/-! ## Fields -/

/-- The keys of a document. -/
def keys : List String := ["endpoint", "token", "handshake_timeout_ms"]

/-- A tag of YAML's own types. -/
def typeTag (name : String) : List UInt8 := ("tag:yaml.org,2002:" ++ name).toUTF8.toList

/-- A word for nothing. -/
def isNull (text : String) : Bool := ["~", "null", "Null", "NULL"].contains text

/-- The token that a scalar stands for. A plain scalar may stand for none at all : an empty one, or
a word for nothing; one that is tagged as nothing has to be such a word. -/
def token? (s : Scalar) : Option (Option String) :=
  if s.style = .plain then
    match s.tag with
    | none => some (if s.text.isEmpty || isNull s.text then none else some s.text)
    | some tag =>
      if tag = typeTag "null" then if isNull s.text then some none else none
      else some (some s.text)
  else some (some s.text)

/-- The time that a scalar stands for : a plain scalar, or a literal one that is tagged as an
integer. -/
def timeout? (s : Scalar) : Option Nat :=
  if s.style = .plain ∨ (s.style = .literal ∧ s.tag = some (typeTag "int")) then
    naturalBelow? 0x10000000000000000 s.text
  else none

/-- The settings that keys and values stand for. No key may come twice. -/
def ofEntries? (entries : List (Scalar × Scalar)) : Option Settings := do
  let fields := entries.map fun (key, value) => (key.text, value)
  let names := fields.map (·.1)
  if names.Nodup ∧ names.all keys.contains then
    let endpoint ← fields.lookup "endpoint"
    let token ← match fields.lookup "token" with
      | some s => token? s
      | none => some none
    let timeout ← match fields.lookup "handshake_timeout_ms" with
      | some s => timeout? s
      | none => some defaultTimeout
    return ⟨endpoint.text, token, timeout⟩
  else none

/-- The settings that a text holds. -/
def ofText? (text : String) : Option Settings := (entries? text).bind ofEntries?

/-! ## Loading -/

/-- Why settings could not be loaded. -/
inductive LoadFault where
  /-- There is no such file, or it holds no text. -/
  | read
  /-- The text is no document, or none of settings. -/
  | parse
  | invalid (fault : Fault)
  deriving DecidableEq, Repr

/-- Settings that are checked. -/
def checked (s : Settings) : Except LoadFault Settings :=
  match s.fault? with
  | some fault => .error (.invalid fault)
  | none => .ok s

/-- The settings in a text. -/
def load (text : String) : Except LoadFault Settings :=
  match ofText? text with
  | some s => s.checked
  | none => .error .parse

/-- The settings in a file, which is missing or has some bytes. -/
def loadFile (content : Option (List UInt8)) : Except LoadFault Settings :=
  match content.bind Text.Utf8.decode? with
  | some text => load text
  | none => .error .read

end ChatLink.Settings
