import ChatLink.Json.Token
import ChatLink.Json.Value
import ChatLink.Text.Digit

/-!
# JSON texts as they are written

The grammar of JSON, as trees that keep everything a writer may choose : blanks, the escapes of a
string, the digits of a number, the order of members and members with equal keys. A `Document` is
a tree with blanks around it, and `Document.bytes` is its text, so a statement about all documents
is one about all well-formed texts. The body of a string may hold any byte but a bare quote or
backslash : control characters and damaged UTF-8, which strict JSON forbids, are let through.

`Tree.value` forgets the blanks. `Tree.tokens` lists the nodes of a tree in document order, each
with its kind, its span, the number of nodes directly below it and the node that it hangs from : a
key hangs from its object, a member's value from its key, an element from its array. `Tree.covered`
lists the bytes that these nodes stand on.
-/

namespace ChatLink.Json

open ChatLink.Text

/-! ## Blanks, bodies and literals -/

/-- A blank : tab, line feed, carriage return or space. -/
def IsBlank (b : UInt8) : Prop := b = 0x09 ∨ b = 0x0a ∨ b = 0x0d ∨ b = 0x20

/-- Any number of blanks. -/
structure Blanks where
  bytes : List UInt8
  blank : ∀ b ∈ bytes, IsBlank b

/-- What may stand between the quotes of a string : bytes other than the quote and the backslash,
two-byte escapes, and `\u` with four hexadecimal digits. -/
inductive IsBody : List UInt8 → Prop where
  | nil : IsBody []
  | plain {b : UInt8} {rest : List UInt8} :
      b ≠ 0x22 → b ≠ 0x5c → IsBody rest → IsBody (b :: rest)
  | short {e : UInt8} {rest : List UInt8} :
      e ∈ [0x22, 0x5c, 0x2f, 0x62, 0x66, 0x6e, 0x72, 0x74] → IsBody rest →
        IsBody (0x5c :: e :: rest)
  | unicode {a b c d : UInt8} {rest : List UInt8} :
      isHex a → isHex b → isHex c → isHex d → IsBody rest →
        IsBody (0x5c :: 0x75 :: a :: b :: c :: d :: rest)

/-- What stands between the quotes of a string. -/
structure Body where
  bytes : List UInt8
  valid : IsBody bytes

/-- No blanks. -/
def Blanks.none : Blanks := ⟨[], by simp⟩

theorem isBody_plain {l : List UInt8} (h : ∀ b ∈ l, b ≠ 0x22 ∧ b ≠ 0x5c) : IsBody l := by
  induction l with
  | nil => exact .nil
  | cons b l ih =>
    obtain ⟨hq, hs⟩ := h b (by simp)
    exact .plain hq hs (ih fun b hb => h b (by simp [hb]))

theorem IsBody.append {l l' : List UInt8} (h : IsBody l) (h' : IsBody l') : IsBody (l ++ l') := by
  induction h with
  | nil => exact h'
  | plain hq hs _ ih => exact .plain hq hs ih
  | short he _ ih => exact .short he ih
  | unicode ha hb hc hd _ ih => exact .unicode ha hb hc hd ih

/-- A body without escapes. -/
def Body.plain (bytes : List UInt8) (h : ∀ b ∈ bytes, b ≠ 0x22 ∧ b ≠ 0x5c) : Body :=
  ⟨bytes, isBody_plain h⟩

/-- One digit or more. -/
def IsDigits (l : List UInt8) : Prop := l ≠ [] ∧ ∀ b ∈ l, isDigit b

/-- Digits without a zero in front, unless it is the only one. -/
def IsInteger (l : List UInt8) : Prop := IsDigits l ∧ (l.head? = some 0x30 → l = [0x30])

/-- A point and digits, or nothing. -/
def IsFraction (l : List UInt8) : Prop := l = [] ∨ ∃ ds, IsDigits ds ∧ l = 0x2e :: ds

/-- The letter `e` in either case, a sign if it is wanted, and digits, or nothing. -/
def IsExponent (l : List UInt8) : Prop :=
  l = [] ∨ ∃ e sign ds, (e = 0x65 ∨ e = 0x45) ∧ (sign = [] ∨ sign = [0x2b] ∨ sign = [0x2d]) ∧
    IsDigits ds ∧ l = e :: (sign ++ ds)

/-- A number, or one of the three names. -/
inductive IsLiteral : List UInt8 → Prop where
  | true : IsLiteral [0x74, 0x72, 0x75, 0x65]
  | false : IsLiteral [0x66, 0x61, 0x6c, 0x73, 0x65]
  | null : IsLiteral [0x6e, 0x75, 0x6c, 0x6c]
  | number {minus whole fraction exponent : List UInt8} :
      (minus = [] ∨ minus = [0x2d]) → IsInteger whole → IsFraction fraction →
        IsExponent exponent → IsLiteral (minus ++ whole ++ fraction ++ exponent)

/-- A number, `true`, `false` or `null`, as it is written. -/
structure Literal where
  bytes : List UInt8
  valid : IsLiteral bytes

/-! ## Trees and their texts -/

mutual

/-- A value as it is written. The first blanks of a container stand after its opening bracket. -/
inductive Tree where
  | string (body : Body)
  | primitive (literal : Literal)
  | array (inside : Blanks) (elements : Elements)
  | object (inside : Blanks) (members : Members)

/-- The elements of an array, each with the blanks around it. -/
inductive Elements where
  | nil
  | cons (before : Blanks) (value : Tree) (after : Blanks) (rest : Elements)

/-- The members of an object, each with the blanks around its key and its value. -/
inductive Members where
  | nil
  | cons (before : Blanks) (key : Body) (afterKey beforeValue : Blanks) (value : Tree)
      (after : Blanks) (rest : Members)

end

mutual

/-- The text of a value. -/
def Tree.bytes : Tree → List UInt8
  | .string body => 0x22 :: (body.bytes ++ [0x22])
  | .primitive literal => literal.bytes
  | .array inside elements => 0x5b :: (inside.bytes ++ (elements.listed.tail ++ [0x5d]))
  | .object inside members => 0x7b :: (inside.bytes ++ (members.listed.tail ++ [0x7d]))

/-- The elements with a comma in front of each; an array leaves the first comma out. -/
def Elements.listed : Elements → List UInt8
  | .nil => []
  | .cons before value after rest =>
    0x2c :: (before.bytes ++ (value.bytes ++ (after.bytes ++ rest.listed)))

/-- The members with a comma in front of each; an object leaves the first comma out. -/
def Members.listed : Members → List UInt8
  | .nil => []
  | .cons before key afterKey beforeValue value after rest =>
    0x2c :: (before.bytes ++ 0x22 :: (key.bytes ++ 0x22 :: (afterKey.bytes ++ 0x3a ::
      (beforeValue.bytes ++ (value.bytes ++ (after.bytes ++ rest.listed))))))

end

/-- A text : one value with blanks around it. -/
structure Document where
  before : Blanks
  root : Tree
  after : Blanks

/-- The bytes of a text. -/
def Document.bytes (d : Document) : List UInt8 := d.before.bytes ++ (d.root.bytes ++ d.after.bytes)

/-! ## What a text says -/

mutual

/-- The value that a tree writes. -/
def Tree.value : Tree → Value
  | .string body => .string body.bytes
  | .primitive literal => .primitive literal.bytes
  | .array _ elements => .array elements.values
  | .object _ members => .object members.values

/-- The elements in order. -/
def Elements.values : Elements → List Value
  | .nil => []
  | .cons _ value _ rest => value.value :: rest.values

/-- The members in order, with their keys as they are written. -/
def Members.values : Members → List (List UInt8 × Value)
  | .nil => []
  | .cons _ key _ _ value _ rest => (key.bytes, value.value) :: rest.values

end

/-! ## Nodes in document order -/

mutual

/-- How many nodes there are; a key is a node. -/
def Tree.count : Tree → Nat
  | .string _ => 1
  | .primitive _ => 1
  | .array _ elements => 1 + elements.count
  | .object _ members => 1 + members.count

/-- How many nodes the elements have. -/
def Elements.count : Elements → Nat
  | .nil => 0
  | .cons _ value _ rest => value.count + rest.count

/-- How many nodes the members have, with their keys. -/
def Members.count : Members → Nat
  | .nil => 0
  | .cons _ _ _ _ value _ rest => 1 + value.count + rest.count

end

/-- How many elements there are. -/
def Elements.length : Elements → Nat
  | .nil => 0
  | .cons _ _ _ rest => rest.length + 1

/-- How many members there are. -/
def Members.length : Members → Nat
  | .nil => 0
  | .cons _ _ _ _ _ _ rest => rest.length + 1

mutual

/-- The nodes of a value that begins at the byte `start`, if the first of them has the index `index`
and hangs from `parent`. -/
def Tree.tokens (start index : Nat) (parent : Option Nat) : Tree → List Token
  | .string body => [⟨.string, start + 1, start + 1 + body.bytes.length, 0, parent⟩]
  | .primitive literal => [⟨.primitive, start, start + literal.bytes.length, 0, parent⟩]
  | .array inside elements =>
    ⟨.array, start, start + (Tree.array inside elements).bytes.length, elements.length, parent⟩ ::
      elements.tokens (start + 1 + inside.bytes.length) (index + 1) index
  | .object inside members =>
    ⟨.object, start, start + (Tree.object inside members).bytes.length, members.length, parent⟩ ::
      members.tokens (start + 1 + inside.bytes.length) (index + 1) index

/-- The nodes of the elements of an array, from the byte after a comma on. -/
def Elements.tokens (start index array : Nat) : Elements → List Token
  | .nil => []
  | .cons before value after rest =>
    value.tokens (start + before.bytes.length) index (some array) ++
      rest.tokens (start + (before.bytes.length + value.bytes.length + after.bytes.length) + 1)
        (index + value.count) array

/-- The nodes of the members of an object, from the byte after a comma on. -/
def Members.tokens (start index object : Nat) : Members → List Token
  | .nil => []
  | .cons before key afterKey beforeValue value after rest =>
    ⟨.string, start + before.bytes.length + 1,
        start + before.bytes.length + 1 + key.bytes.length, 1, some object⟩ ::
      (value.tokens (start + (before.bytes.length + key.bytes.length + afterKey.bytes.length +
          beforeValue.bytes.length + 3)) (index + 1) (some index) ++
        rest.tokens (start + (before.bytes.length + key.bytes.length + afterKey.bytes.length +
          beforeValue.bytes.length + 3 + value.bytes.length + after.bytes.length) + 1)
          (index + 1 + value.count) object)

end

mutual

theorem Tree.length_tokens : ∀ (v : Tree) (start index : Nat) (parent : Option Nat),
    (v.tokens start index parent).length = v.count
  | .string _, _, _, _ => rfl
  | .primitive _, _, _, _ => rfl
  | .array _ elements, _, _, _ => by
    simp [Tree.tokens, Tree.count, elements.length_tokens, Nat.add_comm]
  | .object _ members, _, _, _ => by
    simp [Tree.tokens, Tree.count, members.length_tokens, Nat.add_comm]

theorem Elements.length_tokens : ∀ (es : Elements) (start index array : Nat),
    (es.tokens start index array).length = es.count
  | .nil, _, _, _ => rfl
  | .cons _ value _ rest, _, _, _ => by
    simp [Elements.tokens, Elements.count, value.length_tokens, rest.length_tokens]

theorem Members.length_tokens : ∀ (ms : Members) (start index object : Nat),
    (ms.tokens start index object).length = ms.count
  | .nil, _, _, _ => rfl
  | .cons _ _ _ _ value _ rest, _, _, _ => by
    simp [Members.tokens, Members.count, value.length_tokens, rest.length_tokens]; omega

end

mutual

/-- The bytes that the nodes stand on : a container's text with its brackets, a string's body
without its quotes, a literal. -/
def Tree.covered : Tree → List (List UInt8)
  | .string body => [body.bytes]
  | .primitive literal => [literal.bytes]
  | .array inside elements => (Tree.array inside elements).bytes :: elements.covered
  | .object inside members => (Tree.object inside members).bytes :: members.covered

/-- The bytes that the nodes of the elements stand on. -/
def Elements.covered : Elements → List (List UInt8)
  | .nil => []
  | .cons _ value _ rest => value.covered ++ rest.covered

/-- The bytes that the nodes of the members stand on. -/
def Members.covered : Members → List (List UInt8)
  | .nil => []
  | .cons _ key _ _ value _ rest => key.bytes :: (value.covered ++ rest.covered)

end

namespace Document

/-- How many nodes a text has. -/
def count (d : Document) : Nat := d.root.count

/-- The nodes of a text in document order. -/
def tokens (d : Document) : List Token := d.root.tokens d.before.bytes.length 0 none

end Document

end ChatLink.Json
